import BuildTriage.Proofs.Log.Captures

/-!
# The expression itself as a first test of a line

A pattern `p` is kept as two expressions: `p` itself, which is searched for anywhere in a line, and
`^.*(p).*$`, which decides and captures. A line in which `p` is not found is given up at once. No
report is lost by that (`Pattern.find?_eq_capture?`): the longer expression matches only where some
match of `p` has its line to itself, and then `p` is found. In a line without a line feed every
match has, so there the two expressions match the same lines. With a line feed the second one may
refuse what the first one finds.
-/

namespace BuildTriage

open Regex

namespace Regex

variable {text : List Char}

/-- An expression is found in a text if it matches from some position. -/
lemma isMatch_iff {r : Regex} :
    r.isMatch text = true ↔ ∃ i ≤ text.length, r.runs text i ≠ [] := by
  constructor
  · intro h
    rw [isMatch, match?_eq_head?, List.isSome_head?] at h
    obtain ⟨m, hm⟩ := List.exists_mem_of_ne_nil _ h
    obtain ⟨skipped, hskipped, hm⟩ := List.mem_flatMap.1 hm
    obtain ⟨n, hn, -⟩ := List.mem_map.1 hm
    obtain ⟨-, -, hstop, -⟩ := (mem_starRuns (Nat.zero_le _)).1 hskipped
    exact ⟨skipped.stop, hstop, List.ne_nil_of_mem hn⟩
  · rintro ⟨i, hi, hruns⟩
    obtain ⟨m, hm⟩ := List.exists_mem_of_ne_nil _ hruns
    exact isMatch_of_mem_runs hi hm

/-- The expression for a whole line matches from the start of the text alone. -/
lemma runs_inLine_of_pos {r : Regex} {i : Nat} (hpos : 0 < i) (hi : i ≤ text.length) :
    (inLine r).runs text i = [] := by
  obtain ⟨j, rfl⟩ := Nat.exists_eq_add_of_lt hpos
  have hlt : 0 + j < text.length := Nat.lt_of_succ_le hi
  have hbefore : before? text (0 + j + 1) = some text[0 + j] := List.getElem?_eq_getElem hlt
  have hstart : (Regex.assert .textStart).runs text (0 + j + 1) = [] := by
    rw [runs, hbefore]
    rfl
  change continued ((Regex.assert .textStart).runs text (0 + j + 1)) _ = []
  rw [hstart]
  rfl

/-- So it makes no difference for it whether it is searched for or matched at the start. -/
lemma isMatch_inLine (r : Regex) (text : List Char) :
    (inLine r).isMatch text = ((inLine r).match? text).isSome := by
  rw [Bool.eq_iff_iff, isMatch_iff, match?_eq_head?, List.isSome_head?]
  constructor
  · rintro ⟨i, hi, hruns⟩
    rcases Nat.eq_zero_or_pos i with rfl | hpos
    · exact hruns
    · exact absurd (runs_inLine_of_pos hpos hi) hruns
  · exact fun hruns => ⟨0, Nat.zero_le _, hruns⟩

end Regex

namespace Pattern

variable {probe : Regex} {line : List Char}

/-- Where the expression for a whole line matches, its first group has matched, too. -/
lemma isSome_capture?_inLine (probe : Regex) (line : List Char) :
    (capture? (inLine probe) line).isSome = (inLine probe).isMatch line := by
  rw [isMatch_inLine, capture?_inLine, match?_inLine, Bool.eq_iff_iff, List.findSome?_isSome_iff,
    List.findSome?_isSome_iff]
  refine exists_congr fun before => and_congr_right fun hbefore => ?_
  obtain ⟨hmarks, -, hstop, -⟩ := (mem_starRuns (Nat.zero_le _)).1 hbefore
  rw [hmarks, map_after_nil, head?_runs_groupToEnd _ hstop, Option.isSome_map, Option.isSome_map]

/-- The expression for a whole line matches where some match of the pattern has its line to
itself. -/
lemma isMatch_inLine_iff :
    (inLine probe).isMatch line = true ↔
      ∃ start ≤ line.length, ∃ m ∈ probe.runs line start, FillsLine line start m := by
  rw [← isSome_capture?_inLine]
  constructor
  · intro h
    obtain ⟨text, htext⟩ := Option.isSome_iff_exists.1 h
    obtain ⟨start, m, hreport, -⟩ := reports_of_capture? htext
    exact ⟨start, hreport.within, m, hreport.mem⟩
  · rintro ⟨start, hstart, m, hm, hfills⟩
    exact isSome_capture? hstart hm hfills

/-- The pattern is found wherever the expression for a whole line matches. -/
lemma isMatch_of_isMatch_inLine (h : (inLine probe).isMatch line = true) :
    probe.isMatch line = true := by
  obtain ⟨start, hstart, m, hm, -⟩ := isMatch_inLine_iff.1 h
  exact isMatch_of_mem_runs hstart hm

lemma find?_regex_inLine (source : String) (probe : Regex) (line : List Char) :
    find? (.regex source probe (inLine probe)) line = capture? (inLine probe) line := by
  rw [find?]
  split
  · rfl
  · next hprobe =>
    have hnone : (capture? (inLine probe) line).isSome = false := by
      rw [isSome_capture?_inLine, Bool.eq_false_iff]
      exact fun hwhole => hprobe (isMatch_of_isMatch_inLine hwhole)
    exact (Option.isNone_iff_eq_none.1 (by simpa using hnone)).symm

/-- The two expressions of a pattern that is accepted. -/
lemma exists_of_ofRegex_eq_ok {engine : Engine} {source : String} {p : Pattern}
    (h : ofRegex source engine = .ok p) :
    ∃ probe, Regex.parse? source.toList engine = some probe ∧
      Regex.parse? (wholeLine source.toList) engine = some (inLine probe) ∧
      p = .regex source probe (inLine probe) := by
  unfold ofRegex at h
  split at h
  · next probe whole hprobe hwhole =>
    cases h
    obtain rfl := parse?_wholeLine hprobe hwhole
    exact ⟨probe, hprobe, hwhole, rfl⟩
  · cases h

/-- In a line without a line feed every match has the line to itself. -/
lemma fillsLine_of_not_mem (hline : '\n' ∉ line) (start : Nat) (m : Match) :
    FillsLine line start m :=
  ⟨fun h => hline (List.mem_of_mem_take h), fun h => hline (List.mem_of_mem_drop h)⟩

/-- So the two expressions match the same lines then. -/
lemma isMatch_inLine_eq (hline : '\n' ∉ line) :
    (inLine probe).isMatch line = probe.isMatch line := by
  refine Bool.eq_iff_iff.2 ⟨isMatch_of_isMatch_inLine, fun h => ?_⟩
  obtain ⟨start, hstart, hruns⟩ := isMatch_iff.1 h
  obtain ⟨m, hm⟩ := List.exists_mem_of_ne_nil _ hruns
  exact isMatch_inLine_iff.2 ⟨start, hstart, m, hm, fillsLine_of_not_mem hline start m⟩

/-- **Looking for the expression itself first loses nothing.** Where the expression for a whole line
matches, the expression itself is found, so that a report is what the former captures, whatever the
latter says. In a line without a line feed the two agree, and a line is reported exactly when the
expression matches from some position in it. -/
theorem find?_eq_capture? {engine : Engine} {source : String} {p : Pattern}
    (h : ofRegex source engine = .ok p) (line : List Char) :
    ∃ probe whole, Regex.parse? source.toList engine = some probe ∧
      Regex.parse? (wholeLine source.toList) engine = some whole ∧ p = .regex source probe whole ∧
      (whole.isMatch line = true → probe.isMatch line = true) ∧
      p.find? line = capture? whole line ∧
      ((capture? whole line).isSome ↔ whole.isMatch line = true) ∧
      ('\n' ∉ line →
        (probe.isMatch line = true ↔ whole.isMatch line = true) ∧
        ((p.find? line).isSome ↔ ∃ start ≤ line.length, probe.runs line start ≠ [])) := by
  obtain ⟨probe, hprobe, hwhole, rfl⟩ := exists_of_ofRegex_eq_ok h
  have hfind := find?_regex_inLine source probe line
  refine ⟨probe, inLine probe, hprobe, hwhole, rfl, isMatch_of_isMatch_inLine, hfind, ?_, ?_⟩
  · rw [isSome_capture?_inLine]
  · intro hline
    refine ⟨by rw [isMatch_inLine_eq hline], ?_⟩
    rw [hfind, isSome_capture?_inLine, isMatch_inLine_eq hline, isMatch_iff]

/-- With a line feed in the text `o$` is found, but the first line stands before it, so that nothing
is reported; without one the last `o` is reported. -/
theorem find?_eq_capture?_after_line_feed :
    ∃ p probe whole, ofRegex "o$" = .ok p ∧ p = .regex "o$" probe whole ∧
      probe.isMatch "f\noo".toList = true ∧ whole.isMatch "f\noo".toList = false ∧
      p.find? "f\noo".toList = none ∧ '\n' ∉ "foo".toList ∧ (p.find? "foo".toList).isSome := by
  let o : Regex := .chars (.single 'o')
  let probe : Regex := .cat o (.assert .textEnd)
  have hparse : Regex.parse? "o$".toList = some probe := by rfl
  have hok : ofRegex "o$" = .ok (.regex "o$" probe (inLine probe)) := by rfl
  obtain ⟨_, _, -, -, heq, -, hfind, -⟩ := find?_eq_capture? hok "f\noo".toList
  obtain ⟨_, _, hprobe, -, -, -, -, -, hreal⟩ := find?_eq_capture? hok "foo".toList
  cases heq
  obtain rfl := Option.some.inj (hparse.symm.trans hprobe)
  refine ⟨_, probe, inLine probe, hok, rfl, by decide, by decide, ?_, by decide, ?_⟩
  · rw [hfind]
    decide
  · exact (hreal (by decide)).2.2 ⟨2, by decide, by decide⟩

end Pattern

end BuildTriage
