import BuildTriage.Proofs.Log.History
import BuildTriage.Proofs.Text.Lossy

/-!
# Literals in a log

A scan looks for a literal in the text of a line, in which whatever is not UTF-8 was replaced. What
counts is whether the log holds the bytes of the literal. The two are the same for a literal without
the replacement character: `contains_readFramed_iff` says so of a scan that reads what a framer
takes off a source, wherever the chunks end and a long line is cut.
-/

namespace BuildTriage

/-- The raw line holds some bytes when one carriage return, if it ends in one, is taken off it. -/
def HoldsApartFromReturn (raw bytes : List UInt8) : Prop :=
  ∃ kept, (raw = kept ++ [carriageReturn] ∨ raw = kept ∧ raw.getLast? ≠ some carriageReturn) ∧
    bytes <:+: kept

/-- What is kept is determined: it is what the readers decode. -/
lemma holdsApartFromReturn_iff (raw bytes : List UInt8) :
    HoldsApartFromReturn raw bytes ↔ bytes <:+: dropReturn raw := by
  rw [HoldsApartFromReturn, dropReturn]
  split
  · next hreturn =>
    obtain ⟨front, rfl⟩ := List.getLast?_eq_some_iff.1 hreturn
    simp
  · next hreturn =>
    constructor
    · rintro ⟨kept, rfl | ⟨rfl, -⟩, h⟩
      · exact absurd List.getLast?_concat hreturn
      · exact h
    · exact fun h => ⟨raw, .inr ⟨rfl, hreturn⟩, h⟩

/-- The text of a raw line has the literal in it exactly where the bytes of the line, a carriage
return at their end apart, have its encoding in them. -/
lemma infix_decodeLine_iff {text : String} (htext : '\ufffd' ∉ text.toList) (raw : List UInt8) :
    text.toList <:+: (decodeLine raw).toList ↔
      HoldsApartFromReturn raw text.toUTF8.data.toList := by
  rw [decodeLine, String.toList_ofList, Text.Utf8.infix_decodeLossy_iff htext,
    Text.Utf8.toList_toUTF8, holdsApartFromReturn_iff]

lemma exists_mem_linesUpTo_iff {text : String} (htext : '\ufffd' ∉ text.toList) (limit : Nat)
    (bytes : List UInt8) :
    (∃ line ∈ linesUpTo limit bytes, text.toList <:+: line.toList) ↔
      ∃ piece ∈ pieces bytes,
        HoldsApartFromReturn (piece.take limit) text.toUTF8.data.toList := by
  simp only [linesUpTo, List.mem_map, exists_exists_and_eq_and, infix_decodeLine_iff htext]

lemma Watched.report_literal_isSome {w : Watched} {text : String}
    (hw : w.pattern = .literal text) :
    w.report.isSome = true ↔ ∃ line ∈ w.since, text.toList <:+: line.toList := by
  rw [report, List.findSome?_isSome_iff, hw]
  simp [Pattern.find?, Text.occursIn_iff]

variable {ε : Type}

namespace Tracks

variable {ws : List Watched} {read : List String} {s : Scan}

lemma contains_iff (h : Tracks ws read s) {w : Watched} (hw : w ∈ ws) :
    s.contains w.pattern.id = true ↔ w.report.isSome = true := by
  rw [← h.captured?_eq hw]
  rfl

/-- Reading lines finds a literal exactly if one of them has it, or it was found before. -/
lemma contains_readLines_iff (h : Tracks ws read s) {text : String}
    (hmem : .literal text ∈ s.patterns.patterns) (lines : List String) :
    (s.readLines lines).contains text = true ↔
      s.contains text = true ∨ ∃ line ∈ lines, text.toList <:+: line.toList := by
  rw [h.patterns_eq] at hmem
  obtain ⟨w, hw, hpattern⟩ := List.mem_map.1 hmem
  have hid : w.pattern.id = text := by rw [hpattern, Pattern.id]
  have hbefore := h.contains_iff hw
  have hafter := (h.readLines lines).contains_iff (List.mem_map_of_mem hw)
  rw [hid, Watched.report_literal_isSome hpattern] at hbefore
  rw [show (w.after lines).pattern.id = text from hid,
    Watched.report_literal_isSome (w := w.after lines) hpattern] at hafter
  rw [hbefore, hafter, Watched.after]
  simp only [List.mem_append, or_and_right, exists_or]

end Tracks

/-- A scan that was given no line has found nothing. -/
lemma contains_run_of_delivered_eq_nil (shared : List Registration) (limit : Nat)
    {steps : List (ScanStep ε)} (hsteps : delivered steps = []) (id : String) :
    ((Scan.start (.ofRegistrations shared) limit).run steps).contains id = false := by
  have htracks := run_tracks shared limit steps
  by_cases hid : id ∈ watchedIds (watched shared steps)
  · obtain ⟨w, hw, rfl⟩ := List.mem_map.1 hid
    have hsuffix := since_suffix_of_mem_watched hw
    rw [hsteps, List.suffix_nil] at hsuffix
    rw [Bool.eq_false_iff, ne_eq, htracks.contains_iff hw, Watched.report, hsuffix]
    simp
  · rw [Scan.contains, ← Scan.captured?, htracks.captured?_eq_none hid, Option.isSome_none]

/-- **Replacing what is not UTF-8 hides no literal and invents none.** Let a scan have come to some
state, a literal without the replacement character being registered in it, and let it read what a
framer takes off a source that ends. Then it has found the literal exactly if it had found it
before, or if some piece of the source, cut at the framer's limit and without one carriage return at
its end, has the UTF-8 encoding of the literal in it. A scan that was given no line before has found
it exactly in the latter case. -/
theorem contains_readFramed_iff (shared : List Registration) (limit : Nat)
    (steps : List (ScanStep ε)) (text : String) (chunks : List (List UInt8)) (n : Nat)
    (htext : '\ufffd' ∉ text.toList)
    (hmem : .literal text ∈
      ((Scan.start (.ofRegistrations shared) limit).run steps).patterns.patterns) :
    let s := (Scan.start (.ofRegistrations shared) limit).run steps
    let t := s.readFramed ⟨chunks, false⟩ (.ofMaxLength n)
    (t.contains text = true ↔ s.contains text = true ∨
      ∃ piece ∈ pieces chunks.flatten,
        HoldsApartFromReturn (piece.take (max n 1)) text.toUTF8.data.toList) ∧
    (delivered steps = [] → (t.contains text = true ↔
      ∃ piece ∈ pieces chunks.flatten,
        HoldsApartFromReturn (piece.take (max n 1)) text.toUTF8.data.toList)) := by
  intro s t
  have hread : t = s.readLines (linesUpTo (max n 1) chunks.flatten) :=
    congrArg s.readLines (ByteSource.framedLines_eq_of_not_failed rfl n)
  have hiff : t.contains text = true ↔ s.contains text = true ∨
      ∃ piece ∈ pieces chunks.flatten,
        HoldsApartFromReturn (piece.take (max n 1)) text.toUTF8.data.toList := by
    rw [hread, (run_tracks shared limit steps).contains_readLines_iff hmem,
      exists_mem_linesUpTo_iff htext]
  refine ⟨hiff, fun hsteps => ?_⟩
  have hbefore : s.contains text = false := contains_run_of_delivered_eq_nil shared limit hsteps text
  rw [hiff, hbefore]
  simp

/-- A literal that follows the start of a character and is followed by a byte that no character has,
in a source whose chunks end within the literal. -/
theorem contains_readFramed_between_malformed_bytes :
    let shared := [Registration.literal "né"]
    let chunks : List (List UInt8) :=
      [[0xE2, 0x82, 0x6E, 0xC3], [0xA9, 0xFF, carriageReturn, newline]]
    let s := (Scan.start (.ofRegistrations shared) 10).run ([] : List (ScanStep Empty))
    let t := s.readFramed ⟨chunks, false⟩ (.ofMaxLength 6)
    '\ufffd' ∉ "né".toList ∧ .literal "né" ∈ s.patterns.patterns ∧
      (t.contains "né" = true ↔ ∃ piece ∈ pieces chunks.flatten,
        HoldsApartFromReturn (piece.take (max 6 1)) "né".toUTF8.data.toList) ∧
      t.contains "né" = true := by
  intro shared chunks s t
  have htext : '\ufffd' ∉ "né".toList := by decide
  have hmem : .literal "né" ∈ s.patterns.patterns := by
    simp [s, shared, Scan.run, Scan.start, PatternSet.ofRegistrations, PatternSet.registered,
      PatternSet.register, PatternSet.insertLiteral, PatternSet.insert, PatternSet.empty]
  have hiff := (contains_readFramed_iff shared 10 [] "né" chunks 6 htext hmem).2 rfl
  have hpiece : ∃ piece ∈ pieces chunks.flatten,
      HoldsApartFromReturn (piece.take (max 6 1)) "né".toUTF8.data.toList := by
    refine ⟨[0xE2, 0x82, 0x6E, 0xC3, 0xA9, 0xFF, carriageReturn], by decide,
      [0xE2, 0x82, 0x6E, 0xC3, 0xA9, 0xFF], by decide, ?_⟩
    decide
  exact ⟨htext, hmem, hiff, hiff.2 hpiece⟩

end BuildTriage
