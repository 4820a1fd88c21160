import BuildTriage.Proofs.Log.Progress

/-!
# The search for a line feed is resumed

A framer that is asked for a line looks for a line feed only behind the bytes that it has searched
before, so it relies on a position that outlives the calls in which the buffer is cut, emptied and
extended. Whatever is asked of it, the position lies within the buffer and no line feed stands
before it; that is `Framer.Sound`, which every answer keeps. So the search never begins outside the
buffer, and it finds what a search of the whole buffer finds.

That this makes no difference is stated with framers that search in another way, `Framer.nextBy`. A
search that finds the first line feed of the buffer of every sound framer (`FindsFirst`) gives the
answers of the framer itself, to one request and to a run of them. Two searches are of that kind:
the one that goes on where the last one ended, with no result if that is not in the buffer, and the
one that begins at the start of the buffer each time. `resumed_search_exact` is the statement.
-/

namespace BuildTriage

namespace Framer

/-! ## Searches -/

/-- A way to look for the first line feed in the buffer of a framer. It has no result at all if it
looks outside the buffer. -/
abbrev Search := Framer → Option (Option Nat)

/-- The bytes from a position on, if the position is not behind their end. -/
def bytesFrom? (bytes : List UInt8) (start : Nat) : Option (List UInt8) :=
  if start ≤ bytes.length then some (bytes.drop start) else none

/-- The search that goes on where the last one ended. -/
def resumedSearch : Search := fun f => do
  let unsearched ← bytesFrom? f.buffer f.searched
  return (unsearched.idxOf? newline).map (· + f.searched)

/-- The search that begins at the start of the buffer. -/
def fullSearch : Search := fun f =>
  return f.buffer.idxOf? newline

section Searching

variable (search : Search)

/-- Takes a line as `takeLine` does, by the search. -/
def takeLineBy (f : Framer) : Option (Option String × Framer) := do
  match ← search f with
  | some stop =>
    return (some (decodeLine (f.buffer.take (min stop f.maxLength))),
      { f with buffer := f.buffer.drop (stop + 1), searched := 0 })
  | none =>
    if f.maxLength < f.buffer.length then
      return (some (decodeLine (f.buffer.take f.maxLength)),
        { f with buffer := f.buffer.drop f.maxLength, searched := 0, skipping := true })
    else return (none, { f with searched := f.buffer.length })

/-- Takes the next line as `next` does, by the search. -/
def nextBy (f : Framer) : Option (Option String × Framer) := do
  if f.skipping then
    match ← search f with
    | some stop =>
      takeLineBy search
        { f with buffer := f.buffer.drop (stop + 1), searched := 0, skipping := false }
    | none => return (none, { f with buffer := [], searched := 0 })
  else f.takeLineBy search

/-- Takes the next line as `nextAtEnd` does, by the search. -/
def nextAtEndBy (f : Framer) : Option (Option String × Framer) := do
  match ← f.nextBy search with
  | (some line, f) => return (some line, f)
  | (none, f) =>
    if f.buffer.isEmpty || f.skipping then
      return (none, { f with buffer := [], searched := 0, skipping := false })
    else return (some (decodeLine f.buffer), { f with buffer := [], searched := 0 })

/-- The answer to a request, by the search. -/
def answerBy (f : Framer) : Request → Option (Option String × Framer)
  | .feed chunk => return (none, f.feed chunk)
  | .take => f.nextBy search
  | .takeAtEnd => f.nextAtEndBy search

/-- The lines given to some requests, and the framer after them, by the search. -/
def answerAllBy (f : Framer) : List Request → Option (List String × Framer)
  | [] => return ([], f)
  | request :: requests => do
    let (line?, f) ← f.answerBy search request
    let (lines, f) ← f.answerAllBy requests
    return (line?.toList ++ lines, f)

end Searching

/-! ## Searches that find the first line feed -/

/-- The search looks inside the buffer and finds its first line feed, if the framer is sound. -/
def FindsFirst (search : Search) : Prop :=
  ∀ f : Framer, f.Sound → search f = some (f.buffer.idxOf? newline)

variable {f : Framer} {search : Search}

/-- No line feed is missed by beginning behind what was searched before. -/
lemma Sound.newline?_eq_idxOf? (h : f.Sound) : f.newline? = f.buffer.idxOf? newline := by
  cases hstop : f.newline? with
  | some stop =>
    obtain ⟨front, rest, hfront, hbuffer, rfl⟩ := h.exists_of_newline?_eq_some hstop
    -- What stands before the line feed that was found includes the bytes that were not searched.
    have hfirst : f.buffer.idxOf? newline = some front.length := by
      refine List.idxOf?_eq_some_iff.2 ⟨by simp [hbuffer], by simp [hbuffer], fun j hj hat => ?_⟩
      have hmem : newline ∈ front := by
        rw [← hat]
        simp [hbuffer, List.getElem_append_left hj]
      exact hfront hmem
    exact hfirst.symm
  | none =>
    have hbuffer := h.newline?_eq_none_iff.1 hstop
    exact (List.idxOf?_eq_none_iff.2 hbuffer).symm

lemma resumedSearch_findsFirst : FindsFirst resumedSearch := by
  intro f h
  rw [← h.newline?_eq_idxOf?, resumedSearch, bytesFrom?, if_pos h.searched_le]
  rfl

lemma fullSearch_findsFirst : FindsFirst fullSearch :=
  fun _ _ => rfl

namespace FindsFirst

variable (hsearch : FindsFirst search)

include hsearch

lemma search_eq (h : f.Sound) : search f = some f.newline? := by
  rw [hsearch f h, h.newline?_eq_idxOf?]

lemma takeLineBy_eq (h : f.Sound) : f.takeLineBy search = some f.takeLine := by
  rw [takeLineBy, hsearch.search_eq h, takeLine]
  cases f.newline? with
  | some stop => rfl
  | none =>
    simp only [Option.bind_eq_bind, Option.bind_some]
    split <;> rfl

lemma nextBy_eq (h : f.Sound) : f.nextBy search = some f.next := by
  rw [nextBy, next]
  by_cases hskip : f.skipping = true
  · rw [if_pos hskip, if_pos hskip, hsearch.search_eq h]
    cases f.newline? with
    | some stop =>
      -- Behind the line that was cut the search begins anew.
      exact hsearch.takeLineBy_eq (.of_searched_eq_zero rfl)
    | none => rfl
  · rw [if_neg hskip, if_neg hskip]
    exact hsearch.takeLineBy_eq h

lemma nextAtEndBy_eq (h : f.Sound) : f.nextAtEndBy search = some f.nextAtEnd := by
  rw [nextAtEndBy, hsearch.nextBy_eq h, nextAtEnd]
  rcases f.next with ⟨result, g⟩
  cases result with
  | some line => rfl
  | none =>
    simp only [Option.bind_eq_bind, Option.bind_some]
    split <;> rfl

lemma answerBy_eq (h : f.Sound) (request : Request) :
    f.answerBy search request = some (f.answer request) := by
  cases request with
  | feed chunk => rfl
  | take => exact hsearch.nextBy_eq h
  | takeAtEnd => exact hsearch.nextAtEndBy_eq h

lemma answerAllBy_eq (h : f.Sound) (requests : List Request) :
    f.answerAllBy search requests = some (f.answerAll requests) := by
  induction requests generalizing f with
  | nil => rfl
  | cons request requests ih =>
    rw [answerAllBy, hsearch.answerBy_eq h request]
    simp only [Option.bind_eq_bind, Option.bind_some, ih (h.answer request)]
    rfl

end FindsFirst

/-- **The resumed search is safe and misses nothing.** Whatever was asked of a new framer, the
position at which its search goes on lies within the buffer, and no line feed stands before it. So
the next line is taken without a search that begins outside the buffer, and it is the line that is
taken by searching from the start, with the same bytes left and the same mark that a line is being
skipped. All requests up to then have been answered in that way as well. -/
theorem resumed_search_exact (n : Nat) (requests : List Request) :
    let f := ((ofMaxLength n).answerAll requests).2
    (f.searched ≤ f.buffer.length ∧ newline ∉ f.buffer.take f.searched) ∧
      f.nextBy resumedSearch = some f.next ∧ f.nextBy fullSearch = some f.next ∧
      (ofMaxLength n).answerAllBy resumedSearch requests
        = some ((ofMaxLength n).answerAll requests) ∧
      (ofMaxLength n).answerAllBy fullSearch requests
        = some ((ofMaxLength n).answerAll requests) := by
  intro f
  have hnew := ofMaxLength_sound n
  have hsound : f.Sound := (hnew.answerAll requests).1
  exact ⟨⟨hsound.searched_le, hsound.newline_notMem⟩, resumedSearch_findsFirst.nextBy_eq hsound,
    fullSearch_findsFirst.nextBy_eq hsound, resumedSearch_findsFirst.answerAllBy_eq hnew requests,
    fullSearch_findsFirst.answerAllBy_eq hnew requests⟩

end Framer

end BuildTriage
