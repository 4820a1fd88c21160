import BuildTriage.Proofs.Log.Framing
import BuildTriage.Proofs.Text.LossySize
import Mathlib.Data.List.Infix

/-!
# A framer gets on and stays small

A log may have no line feed at all, and its source may be asked at any time whether it has ended.
Whatever is asked of a framer, and in whatever order, a line costs bytes of the buffer, and without
a line to give the buffer is no longer than a line may be (`requests_bounded`). So no log makes a
reader go round in circles, or hold more than one line and one chunk of it.

The statement is about the requests to a framer with the end of the stream among them, `Request`.
What a single one does is known from `Takes` and `TakesAtEnd`: the line it gives is the text of a
raw line without a line feed that is no longer than the limit, `LineWithin`. From a raw line to its
text, what is not UTF-8 takes three bytes in place of one.
-/

namespace BuildTriage

/-! ## The text of a raw line -/

lemma dropReturn_isPrefix (raw : List UInt8) : dropReturn raw <+: raw := by
  rw [dropReturn]
  split
  · exact List.dropLast_prefix raw
  · exact List.prefix_refl raw

/-- The text of a raw line is at most three times as long as the line. -/
lemma utf8ByteSize_decodeLine_le (raw : List UInt8) :
    (decodeLine raw).utf8ByteSize ≤ 3 * raw.length :=
  (Text.Utf8.utf8ByteSize_decodeLossy_le _).trans
    (Nat.mul_le_mul_left 3 (dropReturn_isPrefix raw).length_le)

/-- A line feed in the text is one in the raw line. -/
lemma lineFeed_notMem_decodeLine {raw : List UInt8} (h : newline ∉ raw) :
    '\n' ∉ (decodeLine raw).toList := by
  intro hmem
  rw [decodeLine, String.toList_ofList, ← List.singleton_infix_iff] at hmem
  have hbytes : [newline] <:+: dropReturn raw :=
    (Text.Utf8.infix_decodeLossy_iff (by decide) _).1 hmem
  exact h ((dropReturn_isPrefix raw).subset ((List.singleton_infix_iff _ _).1 hbytes))

/-- The line is the text of a raw line that has no line feed and at most `limit` bytes. -/
def LineWithin (limit : Nat) (line : String) : Prop :=
  ∃ raw, newline ∉ raw ∧ raw.length ≤ limit ∧ line = decodeLine raw

lemma LineWithin.lineFeed_notMem {limit : Nat} {line : String} (h : LineWithin limit line) :
    '\n' ∉ line.toList := by
  obtain ⟨raw, hraw, -, rfl⟩ := h
  exact lineFeed_notMem_decodeLine hraw

lemma LineWithin.utf8ByteSize_le {limit : Nat} {line : String} (h : LineWithin limit line) :
    line.utf8ByteSize ≤ 3 * limit := by
  obtain ⟨raw, -, hlength, rfl⟩ := h
  exact (utf8ByteSize_decodeLine_le raw).trans (Nat.mul_le_mul_left 3 hlength)

namespace Framer

/-! ## What one call gives -/

variable {f g : Framer} {result : Option String}

lemma Takes.lineWithin (h : Takes f result g) : ∀ line ∈ result, LineWithin f.maxLength line := by
  induction h with
  | @line f front rest hskip hfront hbuffer =>
    rintro _ ⟨⟩
    exact ⟨_, fun hmem => hfront (List.mem_of_mem_take hmem), List.length_take_le _ _, rfl⟩
  | cut hskip hbuffer hlong =>
    rintro _ ⟨⟩
    exact ⟨_, fun hmem => hbuffer (List.mem_of_mem_take hmem), List.length_take_le _ _, rfl⟩
  | wait | skipAll => rintro _ ⟨⟩
  | skipPast _ _ _ _ ih => exact ih

lemma TakesAtEnd.lineWithin (h : TakesAtEnd f result g) :
    ∀ line ∈ result, LineWithin f.maxLength line := by
  cases h with
  | line h => exact h.lineWithin
  | last h _ _ =>
    rintro _ ⟨⟩
    have hdrained := h.drained rfl
    exact ⟨_, hdrained.newline_notMem, h.maxLength_eq ▸ hdrained.length_le, rfl⟩
  | finish => rintro _ ⟨⟩

/-- A drained framer has no line to give. -/
lemma Drained.result_eq_none (hf : f.Drained) (h : Takes f result g) : result = none := by
  cases h with
  | line _ _ hbuffer => exact absurd (by simp [hbuffer]) hf.newline_notMem
  | cut _ _ hlong => exact absurd hf.length_le (Nat.not_le.2 hlong)
  | wait | skipAll => rfl
  | skipPast _ _ hbuffer _ => exact absurd (by simp [hbuffer]) hf.newline_notMem

/-- A framer with nothing left to do has no line to give at the end of the stream either. -/
lemma TakesAtEnd.result_eq_none (hf : f.buffer = []) (h : TakesAtEnd f result g) :
    result = none := by
  have hdrained : f.Drained := ⟨by simp [hf], by simp [hf], fun _ => hf⟩
  cases h with
  | line h => exact hdrained.result_eq_none h
  | @last g htakes _ hne =>
    have hnil : g.buffer = [] := by
      cases htakes with
      | wait => exact hf
      | skipAll => rfl
      | skipPast _ _ hbuffer _ => simp [hf] at hbuffer
    exact absurd hnil hne
  | finish => rfl

lemma nextAtEnd_none_buffer (h : f.nextAtEnd = (none, g)) : g.buffer = [] := by
  unfold nextAtEnd at h
  split at h
  · cases h
  · split at h
    · obtain ⟨-, rfl⟩ := Prod.mk.inj h
      rfl
    · cases h

/-! ## Draining -/

/-- Each line costs a byte at least. -/
lemma length_drainInto_le (found : List String) (f : Framer) :
    (f.drainInto found).1.length + (f.drainInto found).2.buffer.length
      ≤ found.length + f.buffer.length := by
  fun_induction drainInto found f with
  | case1 found f line g hnext hlt ih =>
    rw [List.length_cons] at ih
    omega
  | case2 found f g hnext =>
    have hle := next_buffer_le hnext
    simp only [List.length_reverse]
    omega

lemma length_drainAtEndInto_le (found : List String) (f : Framer) :
    (f.drainAtEndInto found).1.length ≤ found.length + f.buffer.length := by
  fun_induction drainAtEndInto found f with
  | case1 found f line g hnext hlt ih =>
    rw [List.length_cons] at ih
    omega
  | case2 found f g hnext => simp

/-! ## Any requests -/

/-- What may be asked of a framer. -/
inductive Request where
  /-- To hold a chunk that arrives. -/
  | feed (chunk : List UInt8)
  /-- To give a line while more bytes may come. -/
  | take
  /-- To give a line as no more bytes will come. -/
  | takeAtEnd
deriving DecidableEq, Repr

/-- The bytes that come with a request. -/
def Request.bytes : Request → List UInt8
  | .feed chunk => chunk
  | .take | .takeAtEnd => []

/-- The line given to a request, if one is, and the framer after it. -/
def answer (f : Framer) : Request → Option String × Framer
  | .feed chunk => (none, f.feed chunk)
  | .take => f.next
  | .takeAtEnd => f.nextAtEnd

/-- The lines given to some requests, and the framer after them. -/
def answerAll (f : Framer) : List Request → List String × Framer
  | [] => ([], f)
  | request :: requests =>
    ((f.answer request).1.toList ++ ((f.answer request).2.answerAll requests).1,
      ((f.answer request).2.answerAll requests).2)

lemma length_toList_add_le {after before : Nat}
    (hsome : ∀ line, result = some line → after < before)
    (hnone : result = none → after ≤ before) : result.toList.length + after ≤ before := by
  cases result with
  | none => simpa using hnone rfl
  | some line =>
    have hlt := hsome line rfl
    rw [Option.toList_some, List.length_singleton]
    omega

/-- A line costs a byte at least, and only a chunk brings any. -/
lemma length_answer_le (f : Framer) (request : Request) :
    (f.answer request).1.toList.length + (f.answer request).2.buffer.length
      ≤ f.buffer.length + request.bytes.length := by
  cases request with
  | feed chunk => simp [answer, Request.bytes, Framer.feed]
  | take =>
    exact length_toList_add_le (fun _ hline => next_buffer_lt (Prod.ext hline rfl))
      (fun hnone => next_buffer_le (Prod.ext hnone rfl))
  | takeAtEnd =>
    refine length_toList_add_le (fun _ hline => nextAtEnd_buffer_lt (Prod.ext hline rfl))
      (fun hnone => ?_)
    rw [answer, nextAtEnd_none_buffer (Prod.ext hnone rfl)]
    exact Nat.zero_le _

lemma Sound.answer (h : f.Sound) (request : Request) : (f.answer request).2.Sound := by
  cases request with
  | feed chunk => exact h.feed chunk
  | take => exact (next_takes h).sound
  | takeAtEnd => exact (nextAtEnd_takesAtEnd h).sound

lemma Sound.answer_maxLength (h : f.Sound) (request : Request) :
    (f.answer request).2.maxLength = f.maxLength := by
  cases request with
  | feed chunk => rfl
  | take => exact (next_takes h).maxLength_eq
  | takeAtEnd => exact (nextAtEnd_takesAtEnd h).maxLength_eq

lemma Sound.answerAll (h : f.Sound) (requests : List Request) :
    (f.answerAll requests).2.Sound ∧ (f.answerAll requests).2.maxLength = f.maxLength := by
  induction requests generalizing f with
  | nil => exact ⟨h, rfl⟩
  | cons request requests ih =>
    obtain ⟨hsound, hmax⟩ := ih (h.answer request)
    exact ⟨hsound, hmax.trans (h.answer_maxLength request)⟩

/-- However it is asked, a framer gives no more lines than there are bytes. -/
lemma length_answerAll_le (f : Framer) (requests : List Request) :
    (f.answerAll requests).1.length + (f.answerAll requests).2.buffer.length
      ≤ f.buffer.length + (requests.flatMap Request.bytes).length := by
  induction requests generalizing f with
  | nil => simp [answerAll]
  | cons request requests ih =>
    have hrest := ih (f.answer request).2
    have hanswer := length_answer_le f request
    simp only [answerAll, List.length_append, List.flatMap_cons]
    omega

/-- What all calls on a framer come to, if it cuts lines at `limit` bytes. -/
structure Bounded (limit : Nat) (f : Framer) : Prop where
  /-- A call that gives a line takes bytes off the buffer. -/
  next_lt : ∀ line g, f.next = (some line, g) → g.buffer.length < f.buffer.length
  nextAtEnd_lt : ∀ line g, f.nextAtEnd = (some line, g) → g.buffer.length < f.buffer.length
  /-- Asking until there is no line ends after no more lines than there are bytes. -/
  drain_le : f.drain.1.length ≤ f.buffer.length ∧ f.drain.2.next.1 = none
  drainAtEnd_le : f.drainAtEnd.1.length ≤ f.buffer.length ∧ f.drainAtEnd.2.nextAtEnd.1 = none
  /-- And so does asking in any other way, with chunks that arrive in between. -/
  answerAll_le : ∀ requests, (f.answerAll requests).1.length
    ≤ f.buffer.length + (requests.flatMap Request.bytes).length
  /-- Where there is no line, the buffer holds less than one, and nothing of one that was cut. -/
  next_none : ∀ g, f.next = (none, g) →
    g.buffer.length ≤ limit ∧ newline ∉ g.buffer ∧ (g.skipping = true → g.buffer = [])
  nextAtEnd_none : ∀ g, f.nextAtEnd = (none, g) → g.buffer = []
  /-- A line is not longer than its raw line may be with every byte replaced. -/
  line_bounds : ∀ line, f.next.1 = some line ∨ f.nextAtEnd.1 = some line →
    '\n' ∉ line.toList ∧ line.utf8ByteSize ≤ 3 * limit

lemma Sound.bounded (h : f.Sound) : f.Bounded f.maxLength where
  next_lt _ _ := next_buffer_lt
  nextAtEnd_lt _ _ := nextAtEnd_buffer_lt
  drain_le := by
    obtain ⟨hreads, hdrained⟩ := drain_reads h
    have hle := length_drainInto_le [] f
    exact ⟨by simpa [drain] using Nat.le_of_add_right_le hle,
      hdrained.result_eq_none (next_takes (hreads.sound h))⟩
  drainAtEnd_le := by
    have hle := length_drainAtEndInto_le [] f
    refine ⟨by simpa [drainAtEnd] using hle, ?_⟩
    rw [drainAtEnd_eq h]
    exact (nextAtEnd_takesAtEnd (.of_searched_eq_zero rfl)).result_eq_none rfl
  answerAll_le requests := Nat.le_of_add_right_le (length_answerAll_le f requests)
  next_none g hnext := by
    have htakes := next_takes h
    rw [hnext] at htakes
    have hdrained := htakes.drained rfl
    exact ⟨htakes.maxLength_eq ▸ hdrained.length_le, hdrained.newline_notMem,
      hdrained.buffer_eq_nil⟩
  nextAtEnd_none _ := nextAtEnd_none_buffer
  line_bounds line hline := by
    have hwithin : LineWithin f.maxLength line :=
      hline.elim (fun hnext => (next_takes h).lineWithin line hnext)
        (fun hnext => (nextAtEnd_takesAtEnd h).lineWithin line hnext)
    exact ⟨hwithin.lineFeed_notMem, hwithin.utf8ByteSize_le⟩

/-- **A framer gets on and stays small.** Whatever is asked of a new framer, all calls on it are
bounded by the limit on lines, which is one byte if it is given as zero: a call that gives a line
takes bytes off the buffer, so asking ends; a call that gives none leaves no more than a line in the
buffer; and a line has no line feed and at most three times the limit in bytes. -/
theorem requests_bounded (n : Nat) (requests : List Request) :
    ((ofMaxLength n).answerAll requests).2.Bounded (max n 1) := by
  obtain ⟨hsound, hmax⟩ := (ofMaxLength_sound n).answerAll requests
  have hbounded := hsound.bounded
  rwa [hmax] at hbounded

end Framer

end BuildTriage
