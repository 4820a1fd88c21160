import BuildTriage.Log.Framer
import BuildTriage.Proofs.Log.Pieces

/-!
# Framing does not depend on the chunks

Whatever the chunks in which bytes reach a framer, and whenever it is asked for a line between two
of them, the lines it gives are those of the bytes as a whole: the pieces between line feeds, each
cut at the limit. `run_append_drainAtEnd` is the statement.

`Takes` says what one call does, without the index up to which the buffer has been searched;
`next_takes` shows that the calls do that as long as the index is `Sound`. The invariant of a run is
about what lies `ahead`: the bytes of the buffer and those that follow, without the rest of a line
that was cut. A call takes the first line off it (`Takes.split_ahead`), and a chunk moves bytes from
those that follow to the buffer, so over a run nothing is lost and nothing added
(`Reads.split_ahead`). That holds of any way to tell the lines from the bytes that `Splits` them: of
the lines to come if the stream then ends, which are the `outlook`, and of the settled ones.
-/

namespace BuildTriage

namespace Framer

/-! ## One call -/

/-- The search for a line feed may be resumed: the part of the buffer that was searched lies in the
buffer and holds none. -/
structure Sound (f : Framer) : Prop where
  searched_le : f.searched ≤ f.buffer.length
  newline_notMem : newline ∉ f.buffer.take f.searched

/-- What asking for a line does: the result and the framer after it. -/
inductive Takes : Framer → Option String → Framer → Prop where
  /-- The line at the start of the buffer ends in the buffer. -/
  | line {f : Framer} {front rest : List UInt8} (hskip : f.skipping = false)
      (hfront : newline ∉ front) (hbuffer : f.buffer = front ++ newline :: rest) :
      Takes f (some (decodeLine (front.take f.maxLength))) { f with buffer := rest, searched := 0 }
  /-- The line does not end in the buffer, and the buffer holds more of it than a line may have. -/
  | cut {f : Framer} (hskip : f.skipping = false) (hbuffer : newline ∉ f.buffer)
      (hlong : f.maxLength < f.buffer.length) :
      Takes f (some (decodeLine (f.buffer.take f.maxLength)))
        { f with buffer := f.buffer.drop f.maxLength, searched := 0, skipping := true }
  /-- More bytes have to come before there is a line. -/
  | wait {f : Framer} (hskip : f.skipping = false) (hbuffer : newline ∉ f.buffer)
      (hshort : f.buffer.length ≤ f.maxLength) :
      Takes f none { f with searched := f.buffer.length }
  /-- The whole buffer belongs to a line that was cut. -/
  | skipAll {f : Framer} (hskip : f.skipping = true) (hbuffer : newline ∉ f.buffer) :
      Takes f none { f with buffer := [], searched := 0 }
  /-- A line that was cut ends in the buffer, and the next line is taken off what follows. -/
  | skipPast {f g : Framer} {result : Option String} {front rest : List UInt8}
      (hskip : f.skipping = true) (hfront : newline ∉ front)
      (hbuffer : f.buffer = front ++ newline :: rest)
      (hnext : Takes { f with buffer := rest, searched := 0, skipping := false } result g) :
      Takes f result g

lemma Sound.of_searched_eq_zero {f : Framer} (h : f.searched = 0) : f.Sound where
  searched_le := by omega
  newline_notMem := by simp [h]

lemma Sound.feed {f : Framer} (h : f.Sound) (chunk : List UInt8) : (f.feed chunk).Sound where
  searched_le := by
    have := h.searched_le
    simp only [Framer.feed, List.length_append]
    omega
  newline_notMem := by
    simp only [Framer.feed]
    rw [List.take_append_of_le_length h.searched_le]
    exact h.newline_notMem

lemma Sound.newline_mem_drop_iff {f : Framer} (h : f.Sound) :
    newline ∈ f.buffer.drop f.searched ↔ newline ∈ f.buffer := by
  constructor
  · exact List.mem_of_mem_drop
  · intro hmem
    rw [← List.take_append_drop f.searched f.buffer, List.mem_append] at hmem
    exact hmem.resolve_left h.newline_notMem

lemma Sound.newline?_eq_none_iff {f : Framer} (h : f.Sound) :
    f.newline? = none ↔ newline ∉ f.buffer := by
  rw [newline?, Option.map_eq_none_iff, List.idxOf?_eq_none_iff, h.newline_mem_drop_iff]

/-- The search that is resumed finds the first line feed of the buffer. -/
lemma Sound.exists_of_newline?_eq_some {f : Framer} (h : f.Sound) {stop : Nat}
    (hstop : f.newline? = some stop) :
    ∃ front rest, newline ∉ front ∧ f.buffer = front ++ newline :: rest ∧ stop = front.length := by
  rw [newline?, Option.map_eq_some_iff] at hstop
  obtain ⟨k, hk, rfl⟩ := hstop
  obtain ⟨hlt, hat, hbefore⟩ := List.idxOf?_eq_some_iff.1 hk
  have hsearched := h.searched_le
  refine ⟨f.buffer.take f.searched ++ (f.buffer.drop f.searched).take k,
    (f.buffer.drop f.searched).drop (k + 1), ?_, ?_, ?_⟩
  · rw [List.mem_append, not_or]
    refine ⟨h.newline_notMem, fun hmem => ?_⟩
    obtain ⟨j, hj, hnewline⟩ := List.mem_take_iff_getElem.1 hmem
    exact hbefore j (by omega) hnewline
  · rw [List.append_assoc, ← hat, List.getElem_cons_drop, List.take_append_drop,
      List.take_append_drop]
  · simp only [List.length_append, List.length_take]
    omega

lemma takeLine_takes {f : Framer} (h : f.Sound) (hskip : f.skipping = false) :
    Takes f f.takeLine.1 f.takeLine.2 := by
  cases hstop : f.newline? with
  | some stop =>
    obtain ⟨front, rest, hfront, hbuffer, rfl⟩ := h.exists_of_newline?_eq_some hstop
    have htake : f.buffer.take (min front.length f.maxLength) = front.take f.maxLength := by
      rw [hbuffer, Nat.min_comm, ← List.take_take, List.take_left]
    have hdrop : f.buffer.drop (front.length + 1) = rest := by
      simp [hbuffer, List.drop_append]
    rw [takeLine, hstop]
    simp only [htake, hdrop]
    exact .line hskip hfront hbuffer
  | none =>
    have hbuffer := h.newline?_eq_none_iff.1 hstop
    rw [takeLine, hstop]
    by_cases hlong : f.maxLength < f.buffer.length
    · simp only [if_pos hlong]
      exact .cut hskip hbuffer hlong
    · simp only [if_neg hlong]
      exact .wait hskip hbuffer (by omega)

/-- A call does what `Takes` says. -/
lemma next_takes {f : Framer} (h : f.Sound) : Takes f f.next.1 f.next.2 := by
  by_cases hskip : f.skipping = true
  · cases hstop : f.newline? with
    | some stop =>
      obtain ⟨front, rest, hfront, hbuffer, rfl⟩ := h.exists_of_newline?_eq_some hstop
      have hdrop : f.buffer.drop (front.length + 1) = rest := by
        simp [hbuffer, List.drop_append]
      rw [next, if_pos hskip, hstop]
      simp only [hdrop]
      exact .skipPast hskip hfront hbuffer (takeLine_takes (.of_searched_eq_zero rfl) rfl)
    | none =>
      rw [next, if_pos hskip, hstop]
      exact .skipAll hskip (h.newline?_eq_none_iff.1 hstop)
  · rw [next, if_neg hskip]
    exact takeLine_takes h (by simpa using hskip)

/-! ## What a call keeps -/

namespace Takes

variable {f g : Framer} {result : Option String}

lemma sound (h : Takes f result g) : g.Sound := by
  induction h with
  | line => exact .of_searched_eq_zero rfl
  | cut => exact .of_searched_eq_zero rfl
  | wait _ hbuffer _ => exact ⟨Nat.le_refl _, by simpa using hbuffer⟩
  | skipAll => exact .of_searched_eq_zero rfl
  | skipPast _ _ _ _ ih => exact ih

lemma maxLength_eq (h : Takes f result g) : g.maxLength = f.maxLength := by
  induction h with
  | line | cut | wait | skipAll => rfl
  | skipPast _ _ _ _ ih => exact ih

end Takes

/-! ## The lines to come -/

/-- The bytes that a framer will read as lines if the bytes `rest` follow: those of its buffer and
those that follow, but not the rest of a line that was cut. -/
def ahead (f : Framer) (rest : List UInt8) : List UInt8 :=
  if f.skipping then afterNewline (f.buffer ++ rest) else f.buffer ++ rest

/-- The lines that a framer will still give if the bytes `rest` follow and then the stream ends. -/
def outlook (f : Framer) (rest : List UInt8) : List String :=
  linesUpTo f.maxLength (f.ahead rest)

lemma ahead_of_skipping {f : Framer} (h : f.skipping = true) (rest : List UInt8) :
    f.ahead rest = afterNewline (f.buffer ++ rest) := by
  rw [ahead, if_pos h]

lemma ahead_of_not_skipping {f : Framer} (h : f.skipping = false) (rest : List UInt8) :
    f.ahead rest = f.buffer ++ rest := by
  rw [ahead, if_neg (by simp [h])]

/-- A chunk that arrives was to come. -/
lemma ahead_feed (f : Framer) (chunk rest : List UInt8) :
    (f.feed chunk).ahead rest = f.ahead (chunk ++ rest) := by
  simp only [ahead, feed, List.append_assoc]

/-- A call gives the first line ahead, if it gives one, and leaves the others. -/
lemma Takes.split_ahead {f g : Framer} {result : Option String} (h : Takes f result g)
    {split : List UInt8 → List String} (hsplit : Splits f.maxLength split) (rest : List UInt8) :
    split (f.ahead rest) = result.toList ++ split (g.ahead rest) := by
  induction h with
  | @line f front tail hskip hfront hbuffer =>
    calc split (f.ahead rest)
      _ = split (front ++ newline :: (tail ++ rest)) := by
        rw [ahead_of_not_skipping hskip, hbuffer, List.append_assoc, List.cons_append]
      _ = decodeLine (front.take f.maxLength) :: split (tail ++ rest) :=
        hsplit.append_newline hfront _
      _ = _ := by simp [ahead, hskip]
  | @cut f hskip hbuffer hlong =>
    have hdrop : newline ∉ f.buffer.drop f.maxLength :=
      fun hmem => hbuffer (List.mem_of_mem_drop hmem)
    calc split (f.ahead rest)
      _ = decodeLine (f.buffer.take f.maxLength) :: split (afterNewline rest) := by
        rw [ahead_of_not_skipping hskip, hsplit.append_of_lt hbuffer hlong]
      _ = _ := by simp [ahead, afterNewline_append hdrop]
  | wait hskip _ _ => simp [ahead, hskip]
  | skipAll hskip hbuffer => simp [ahead, hskip, afterNewline_append hbuffer]
  | @skipPast f g result front tail hskip hfront hbuffer hnext ih =>
    calc split (f.ahead rest)
      _ = split (tail ++ rest) := by
        rw [ahead_of_skipping hskip, hbuffer, List.append_assoc, List.cons_append,
          afterNewline_append hfront, afterNewline_newline]
      _ = split (ahead { f with buffer := tail, searched := 0, skipping := false } rest) := by
        rw [ahead_of_not_skipping rfl]
      _ = _ := ih hsplit

lemma Takes.outlook_eq {f g : Framer} {result : Option String} (h : Takes f result g)
    (rest : List UInt8) : f.outlook rest = result.toList ++ g.outlook rest := by
  rw [outlook, h.split_ahead (linesUpTo_splits _), outlook, h.maxLength_eq]

/-! ## A run -/

/-- Some calls between which chunks arrive: the bytes that arrived and the lines given. -/
inductive Reads : Framer → List UInt8 → List String → Framer → Prop where
  | done {f : Framer} : Reads f [] [] f
  | feed {f g : Framer} {bytes : List UInt8} {lines : List String} (chunk : List UInt8)
      (h : Reads (f.feed chunk) bytes lines g) : Reads f (chunk ++ bytes) lines g
  | take {f f' g : Framer} {bytes : List UInt8} {lines : List String} {result : Option String}
      (h : Takes f result f') (hrest : Reads f' bytes lines g) :
      Reads f bytes (result.toList ++ lines) g

namespace Reads

variable {f g : Framer} {bytes : List UInt8} {lines : List String}

lemma trans {h : Framer} {more : List UInt8} {later : List String} (hfg : Reads f bytes lines g)
    (hgh : Reads g more later h) : Reads f (bytes ++ more) (lines ++ later) h := by
  induction hfg with
  | done => exact hgh
  | feed chunk _ ih =>
    rw [List.append_assoc]
    exact .feed chunk (ih hgh)
  | take htakes _ ih =>
    rw [List.append_assoc]
    exact .take htakes (ih hgh)

lemma sound (h : Reads f bytes lines g) (hf : f.Sound) : g.Sound := by
  induction h with
  | done => exact hf
  | feed chunk _ ih => exact ih (hf.feed chunk)
  | take htakes _ ih => exact ih htakes.sound

lemma maxLength_eq (h : Reads f bytes lines g) : g.maxLength = f.maxLength := by
  induction h with
  | done => rfl
  | feed chunk _ ih => rw [ih, Framer.feed]
  | take htakes _ ih => rw [ih, htakes.maxLength_eq]

/-- Over a run no line is lost, doubled or made up, whatever bytes follow it. -/
lemma split_ahead (h : Reads f bytes lines g) {split : List UInt8 → List String}
    (hsplit : Splits f.maxLength split) (rest : List UInt8) :
    split (f.ahead (bytes ++ rest)) = lines ++ split (g.ahead rest) := by
  induction h with
  | done => rfl
  | feed chunk _ ih => rw [List.append_assoc, ← ahead_feed, ih hsplit]
  | take htakes _ ih =>
    rw [htakes.split_ahead hsplit, ih (htakes.maxLength_eq ▸ hsplit), List.append_assoc]

lemma outlook_append (h : Reads f bytes lines g) (rest : List UInt8) :
    f.outlook (bytes ++ rest) = lines ++ g.outlook rest := by
  rw [outlook, h.split_ahead (linesUpTo_splits _), outlook, h.maxLength_eq]

end Reads

/-! ## The end of the stream -/

/-- The framer with nothing left to do. -/
def cleared (f : Framer) : Framer :=
  { f with buffer := [], searched := 0, skipping := false }

@[simp] lemma cleared_outlook_nil (f : Framer) : f.cleared.outlook [] = [] := by
  simp [outlook, ahead, cleared]

lemma cleared_eq_cleared {f g : Framer} (h : f.maxLength = g.maxLength) :
    f.cleared = g.cleared := by
  simp only [cleared, h]

lemma cleared_eq_ofMaxLength {f : Framer} {n : Nat} (h : f.maxLength = max n 1) :
    f.cleared = ofMaxLength n := by
  simp only [cleared, ofMaxLength, h]

/-- A framer that has no line to give before more bytes come. -/
structure Drained (f : Framer) : Prop where
  newline_notMem : newline ∉ f.buffer
  length_le : f.buffer.length ≤ f.maxLength
  buffer_eq_nil : f.skipping = true → f.buffer = []

lemma Takes.drained {f g : Framer} {result : Option String} (h : Takes f result g) :
    result = none → g.Drained := by
  induction h with
  | line | cut => intro hnone; cases hnone
  | wait hskip hbuffer hshort =>
    exact fun _ => ⟨hbuffer, hshort, fun hskip' => by simp [hskip] at hskip'⟩
  | skipAll => exact fun _ => ⟨by simp, by simp, fun _ => rfl⟩
  | skipPast _ _ _ _ ih => exact ih

/-- What stands in a drained buffer at the end of the stream is a line, unless it is empty. -/
lemma Drained.outlook_nil {f : Framer} (h : f.Drained) (hskip : f.skipping = false)
    (hne : f.buffer ≠ []) : f.outlook [] = [decodeLine f.buffer] := by
  rw [outlook, ahead_of_not_skipping hskip, List.append_nil, linesUpTo,
    pieces_of_not_mem h.newline_notMem hne, List.map_singleton, List.take_of_length_le h.length_le]

/-- None of what stands in a drained buffer is settled. -/
lemma Drained.settledLinesUpTo_ahead_nil {f : Framer} (h : f.Drained) :
    settledLinesUpTo f.maxLength (f.ahead []) = [] := by
  rw [ahead, List.append_nil]
  split
  · next hskip =>
    rw [h.buffer_eq_nil hskip, afterNewline_nil]
    exact settledLinesUpTo_of_not_mem List.not_mem_nil (Nat.zero_le _)
  · exact settledLinesUpTo_of_not_mem h.newline_notMem h.length_le

/-- What asking for a line at the end of the stream does. -/
inductive TakesAtEnd : Framer → Option String → Framer → Prop where
  /-- There is a line as if more bytes could come. -/
  | line {f g : Framer} {line : String} (h : Takes f (some line) g) : TakesAtEnd f (some line) g
  /-- What is left is the last line. -/
  | last {f g : Framer} (h : Takes f none g) (hskip : g.skipping = false) (hne : g.buffer ≠ []) :
      TakesAtEnd f (some (decodeLine g.buffer)) g.cleared
  /-- Nothing is left, or only what belongs to a line that was cut. -/
  | finish {f g : Framer} (h : Takes f none g) (hend : g.buffer = [] ∨ g.skipping = true) :
      TakesAtEnd f none g.cleared

lemma nextAtEnd_takesAtEnd {f : Framer} (h : f.Sound) :
    TakesAtEnd f f.nextAtEnd.1 f.nextAtEnd.2 := by
  have htakes := next_takes h
  rcases hnext : f.next with ⟨result, g⟩
  rw [hnext] at htakes
  cases result with
  | some line =>
    rw [nextAtEnd, hnext]
    exact .line htakes
  | none =>
    rw [nextAtEnd, hnext]
    by_cases hend : g.buffer = [] ∨ g.skipping = true
    · have hif : (g.buffer.isEmpty || g.skipping) = true := by simpa using hend
      simp only [if_pos hif]
      exact .finish htakes hend
    · obtain ⟨hne, hskip⟩ := not_or.1 hend
      have hif : ¬(g.buffer.isEmpty || g.skipping) = true := by simpa using hend
      have hlast := TakesAtEnd.last htakes (by simpa using hskip) hne
      simp only [if_neg hif]
      simpa [cleared, hskip] using hlast

namespace TakesAtEnd

variable {f g : Framer} {result : Option String}

lemma sound (h : TakesAtEnd f result g) : g.Sound := by
  cases h with
  | line h => exact h.sound
  | last | finish => exact .of_searched_eq_zero rfl

lemma maxLength_eq (h : TakesAtEnd f result g) : g.maxLength = f.maxLength := by
  cases h with
  | line h | last h | finish h => exact h.maxLength_eq

lemma outlook_eq (h : TakesAtEnd f result g) : f.outlook [] = result.toList ++ g.outlook [] := by
  cases h with
  | line h => exact h.outlook_eq []
  | last h hskip hne =>
    rw [h.outlook_eq, (h.drained rfl).outlook_nil hskip hne, cleared_outlook_nil]
    rfl
  | @finish g h hend =>
    have hbuffer : g.buffer = [] := hend.elim id (h.drained rfl).buffer_eq_nil
    rw [h.outlook_eq, cleared_outlook_nil]
    simp [outlook, ahead, hbuffer]

lemma eq_cleared (h : TakesAtEnd f result g) (hnone : result = none) : g = f.cleared := by
  cases h with
  | line | last => cases hnone
  | finish h => exact cleared_eq_cleared h.maxLength_eq

end TakesAtEnd

/-- Asking until there is no line gives the lines to come and clears the framer. -/
lemma drainAtEndInto_eq (found : List String) {f : Framer} (h : f.Sound) :
    f.drainAtEndInto found = (found.reverse ++ f.outlook [], f.cleared) := by
  have htakes := nextAtEnd_takesAtEnd h
  fun_induction drainAtEndInto found f with
  | case1 found f line g hnext hlt ih =>
    rw [hnext] at htakes
    rw [ih htakes.sound (nextAtEnd_takesAtEnd htakes.sound), htakes.outlook_eq,
      cleared_eq_cleared htakes.maxLength_eq]
    simp
  | case2 found f g hnext =>
    rw [hnext] at htakes
    have hg : g = f.cleared := htakes.eq_cleared rfl
    have hnil : f.outlook [] = [] := by
      rw [htakes.outlook_eq, hg, cleared_outlook_nil]
      rfl
    rw [hg, hnil, List.append_nil]

lemma drainAtEnd_eq {f : Framer} (h : f.Sound) : f.drainAtEnd = (f.outlook [], f.cleared) := by
  rw [drainAtEnd, drainAtEndInto_eq [] h, List.reverse_nil, List.nil_append]

/-- Asking until there is no line, while more bytes may come, is a run that drains the framer. -/
lemma drainInto_reads (found : List String) {f : Framer} (h : f.Sound) :
    ∃ lines, (f.drainInto found).1 = found.reverse ++ lines ∧
      Reads f [] lines (f.drainInto found).2 ∧ (f.drainInto found).2.Drained := by
  have htakes := next_takes h
  fun_induction drainInto found f with
  | case1 found f line g hnext hlt ih =>
    rw [hnext] at htakes
    obtain ⟨lines, hlines, hreads, hdrained⟩ := ih htakes.sound (next_takes htakes.sound)
    refine ⟨line :: lines, ?_, .take htakes hreads, hdrained⟩
    simp [hlines]
  | case2 found f g hnext =>
    rw [hnext] at htakes
    exact ⟨[], by simp, .take htakes .done, htakes.drained rfl⟩

lemma drain_reads {f : Framer} (h : f.Sound) :
    Reads f [] f.drain.1 f.drain.2 ∧ f.drain.2.Drained := by
  obtain ⟨lines, hlines, hreads, hdrained⟩ := drainInto_reads [] h
  rw [List.reverse_nil, List.nil_append] at hlines
  rw [drain, hlines]
  exact ⟨hreads, hdrained⟩

/-! ## Any run and the end of its stream -/

/-- What is done to a framer before its stream ends. -/
inductive Call where
  /-- A chunk arrives. -/
  | feed (chunk : List UInt8)
  /-- A line is asked for. -/
  | take
deriving DecidableEq, Repr

/-- The bytes that arrive in some calls. -/
def fed : List Call → List UInt8
  | [] => []
  | .feed chunk :: calls => chunk ++ fed calls
  | .take :: calls => fed calls

/-- The lines given by some calls, and the framer after them. -/
def run (f : Framer) : List Call → List String × Framer
  | [] => ([], f)
  | .feed chunk :: calls => (f.feed chunk).run calls
  | .take :: calls => (f.next.1.toList ++ (f.next.2.run calls).1, (f.next.2.run calls).2)

lemma run_reads {f : Framer} (h : f.Sound) (calls : List Call) :
    Reads f (fed calls) (f.run calls).1 (f.run calls).2 := by
  induction calls generalizing f with
  | nil => exact .done
  | cons call calls ih =>
    cases call with
    | feed chunk => exact .feed chunk (ih (h.feed chunk))
    | take => exact .take (next_takes h) (ih (next_takes h).sound)

lemma ofMaxLength_sound (n : Nat) : (ofMaxLength n).Sound :=
  .of_searched_eq_zero rfl

lemma ofMaxLength_outlook (n : Nat) (bytes : List UInt8) :
    (ofMaxLength n).outlook bytes = linesUpTo (max n 1) bytes :=
  rfl

lemma run_append_outlook (n : Nat) (calls : List Call) :
    ((ofMaxLength n).run calls).1 ++ ((ofMaxLength n).run calls).2.outlook []
      = linesUpTo (max n 1) (fed calls) := by
  have hreads := run_reads (ofMaxLength_sound n) calls
  have hlines := hreads.outlook_append []
  rw [List.append_nil, ofMaxLength_outlook] at hlines
  exact hlines.symm

lemma drainAtEnd_run (n : Nat) (calls : List Call) :
    ((ofMaxLength n).run calls).2.drainAtEnd
      = (((ofMaxLength n).run calls).2.outlook [], ofMaxLength n) := by
  have hreads := run_reads (ofMaxLength_sound n) calls
  rw [drainAtEnd_eq (hreads.sound (ofMaxLength_sound n)),
    cleared_eq_ofMaxLength hreads.maxLength_eq]

/-- **Framing does not depend on the chunks.** Whatever calls are made on a new framer, the lines
they give and those given at the end of the stream are, in order, the texts of the pieces of all
bytes, each piece cut at the limit, which is one byte if it is given as zero. After the end the
framer is a new one, so what it is fed then is framed in the same way. -/
theorem run_append_drainAtEnd (n : Nat) (calls : List Call) :
    ((ofMaxLength n).run calls).1 ++ ((ofMaxLength n).run calls).2.drainAtEnd.1
        = (pieces (fed calls)).map (fun piece => decodeLine (piece.take (max n 1))) ∧
      ((ofMaxLength n).run calls).2.drainAtEnd.2 = ofMaxLength n ∧
      ∀ later, (((ofMaxLength n).run calls).2.drainAtEnd.2.run later).1
          ++ (((ofMaxLength n).run calls).2.drainAtEnd.2.run later).2.drainAtEnd.1
        = (pieces (fed later)).map fun piece => decodeLine (piece.take (max n 1)) := by
  have hall : ∀ calls, ((ofMaxLength n).run calls).1
      ++ ((ofMaxLength n).run calls).2.drainAtEnd.1 = linesUpTo (max n 1) (fed calls) := by
    intro calls
    rw [drainAtEnd_run, run_append_outlook]
  have hnew : ((ofMaxLength n).run calls).2.drainAtEnd.2 = ofMaxLength n := by
    rw [drainAtEnd_run]
  refine ⟨hall calls, hnew, fun later => ?_⟩
  rw [hnew]
  exact hall later

end Framer

end BuildTriage
