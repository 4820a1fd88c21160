import BuildTriage.Proofs.Log.Acceptance
import BuildTriage.Proofs.Log.Probe
import BuildTriage.Proofs.Regex.Glyphs
import Mathlib.Order.Bounds.Basic

/-!
# What a regular expression with a gap reports for a line

In the expression for a whole line around a pattern with a gap, two greedy stars compete for the
characters of the line: the one put before the pattern and the one in it. The first of them is
served first, so the part before the gap is found where it occurs last with the part after the gap
behind it. The second one gets what is left, and the part after the gap is found where it occurs
last of all (`capture?_gap_iff`).
-/

namespace BuildTriage

open Regex

namespace Regex

variable {engine : Engine}

/-- A pattern with a gap is well-formed unless the engine finds it too large. -/
lemma parse?_gapPattern_eq_some_iff {a b : List Glyph} {r : Regex} :
    parse? (gapPattern a b) engine = some r ↔ r = gap a b ∧ engine.fits (gap a b) := by
  obtain ⟨item, hitem, hregex, hdepth⟩ := item?_gapPattern engine a b
  have hnested : item.depth ≤ maxDepth := Nat.le_trans hdepth (by decide)
  rw [parse?_eq_some_iff, ← hregex]
  constructor
  · rintro ⟨other, hother, -, hfits, rfl⟩
    obtain rfl := Option.some.inj (hitem.symm.trans hother)
    exact ⟨rfl, hfits⟩
  · rintro ⟨rfl, hfits⟩
    exact ⟨item, hitem, hnested, hfits, rfl⟩

/-- It fits into the pattern of a whole line unless the engine finds that too large. -/
lemma fitsInLine_gapPattern_iff (engine : Engine) (a b : List Glyph) :
    FitsInLine engine (gapPattern a b) ↔ engine.fits (inLine (gap a b)) := by
  obtain ⟨item, hitem, hregex, hdepth⟩ := item?_gapPattern engine a b
  constructor
  · intro hline
    exact hregex ▸ hline.fits item hitem
  · intro hfits
    refine ⟨not_endsInComment_gapPattern engine a b, fun other hother => ?_, fun other hother => ?_⟩
    · obtain rfl := Option.some.inj (hitem.symm.trans hother)
      exact Nat.le_trans (Nat.add_le_add_right hdepth 2) (by decide)
    · obtain rfl := Option.some.inj (hitem.symm.trans hother)
      exact hregex ▸ hfits

/-- Where the part before the gap occurs, with the part after the gap behind it. -/
def gapStarts (a b : List Glyph) (line : List Char) : Set Nat :=
  {s | OccursAt a line s ∧ ∃ t, OccursAt b line t ∧ s + a.length ≤ t}

lemma mem_gapStarts_iff {a b : List Glyph} {line : List Char} (hline : '\n' ∉ line) {s : Nat}
    (hs : s ≤ line.length) : s ∈ gapStarts a b line ↔ ∃ m, m ∈ (gap a b).runs line s := by
  simp only [mem_runs_gap hline hs, gapStarts, Set.mem_ofPred_eq]
  constructor
  · rintro ⟨ha, t, hb, hle⟩
    exact ⟨_, ha, t, hb, hle, rfl⟩
  · rintro ⟨m, ha, t, hb, hle, -⟩
    exact ⟨ha, t, hb, hle⟩

end Regex

namespace Pattern

variable {a b : List Glyph} {line : List Char}

/-- An expression that prefers the later ends reports the last end that counts. -/
lemma Reports.stop_le {probe : Regex} {start : Nat} {m m' : Match}
    (h : Reports probe line start m)
    (hsorted : (probe.runs line start).Pairwise fun m m' => m'.stop < m.stop)
    (hm' : m' ∈ probe.runs line start) (hfills : FillsLine line start m') : m'.stop ≤ m.stop := by
  obtain ⟨-, front, rest, hruns, hnone⟩ := List.find?_eq_some_iff_append.1 h.preferred
  rw [hruns] at hm' hsorted
  rcases List.mem_append.1 hm' with hfront | hrest
  · exact absurd hfills (by simpa using hnone m' hfront)
  · rcases List.mem_cons.1 hrest with rfl | hrest
    · exact Nat.le_refl _
    · have hlater := (List.pairwise_append.1 hsorted).2.1
      exact Nat.le_of_lt ((List.pairwise_cons.1 hlater).1 m' hrest)

/-- A report for a pattern with a gap runs from the last start that there is to the end of the last
occurrence of the part after the gap. -/
lemma Reports.isGreatest (hline : '\n' ∉ line) {start : Nat} {m : Match}
    (h : Reports (gap a b) line start m) :
    IsGreatest (gapStarts a b line) start ∧
      ∃ t, IsGreatest {t | OccursAt b line t} t ∧ m.stop = t + b.length := by
  obtain ⟨ha, t, hb, hle, rfl⟩ := (mem_runs_gap hline h.within).1 h.mem.1
  refine ⟨⟨⟨ha, t, hb, hle⟩, ?_⟩, t, ⟨hb, ?_⟩, rfl⟩
  · intro later hlater
    have hwithin : later ≤ line.length := Nat.le_of_add_right_le hlater.1.add_length_le
    obtain ⟨m', hm'⟩ := (mem_gapStarts_iff hline hwithin).1 hlater
    exact h.last later hwithin m' hm' (fillsLine_of_not_mem hline later m')
  · intro t' hb'
    -- An occurrence that starts before the end of the first part is none the pattern could take.
    by_cases hbehind : start + a.length ≤ t'
    · have hm' := (mem_runs_gap hline h.within).2 ⟨ha, t', hb', hbehind, rfl⟩
      have hstop := h.stop_le (pairwise_runs_gap h.within) hm' (fillsLine_of_not_mem hline _ _)
      exact Nat.le_of_add_le_add_right hstop
    · exact Nat.le_of_lt (Nat.lt_of_lt_of_le (Nat.lt_of_not_le hbehind) hle)

/-- The text between the last start and the end of the last occurrence of the second part. -/
lemma capture?_gap_iff (hline : '\n' ∉ line) (text : String) :
    capture? (inLine (gap a b)) line = some text ↔
      ∃ s t, IsGreatest (gapStarts a b line) s ∧ IsGreatest {t | OccursAt b line t} t ∧
        text = slice line s (t + b.length) := by
  constructor
  · intro h
    obtain ⟨s, m, hreport, rfl⟩ := reports_of_capture? h
    obtain ⟨hs, t, ht, hstop⟩ := hreport.isGreatest hline
    exact ⟨s, t, hs, ht, by rw [hstop]⟩
  · rintro ⟨s, t, hs, ht, rfl⟩
    have hwithin : s ≤ line.length := Nat.le_of_add_right_le hs.1.1.add_length_le
    obtain ⟨m, hm⟩ := (mem_gapStarts_iff hline hwithin).1 hs.1
    obtain ⟨text, htext⟩ := Option.isSome_iff_exists.1
      (isSome_capture? hwithin hm (fillsLine_of_not_mem hline s m))
    obtain ⟨s', m', hreport, rfl⟩ := reports_of_capture? htext
    obtain ⟨hs', t', ht', hstop⟩ := hreport.isGreatest hline
    rw [htext, hstop, hs.unique hs', ht.unique ht']

lemma isSome_capture?_gap_iff (hline : '\n' ∉ line) :
    (capture? (inLine (gap a b)) line).isSome ↔ ∃ s, s ∈ gapStarts a b line := by
  constructor
  · intro h
    obtain ⟨text, htext⟩ := Option.isSome_iff_exists.1 h
    obtain ⟨s, t, hs, -⟩ := (capture?_gap_iff hline text).1 htext
    exact ⟨s, hs.1⟩
  · rintro ⟨s, hs⟩
    have hwithin : s ≤ line.length := Nat.le_of_add_right_le hs.1.add_length_le
    obtain ⟨m, hm⟩ := (mem_gapStarts_iff hline hwithin).1 hs
    exact isSome_capture? hwithin hm (fillsLine_of_not_mem hline s m)

/-- A pattern with a gap is accepted unless the engine finds it too large, by itself or in a line. -/
lemma ofRegex_gapPattern_eq_ok_iff (engine : Engine) (a b : List Glyph) :
    (∃ p, ofRegex (String.ofList (gapPattern a b)) engine = .ok p) ↔
      engine.fits (gap a b) ∧ engine.fits (inLine (gap a b)) := by
  have hparse : (parse? (gapPattern a b) engine).isSome ↔ engine.fits (gap a b) := by
    simp [Option.isSome_iff_exists, parse?_gapPattern_eq_some_iff]
  rw [ofRegex_eq_ok_iff_isSome, String.toList_ofList, ← hparse, ← fitsInLine_gapPattern_iff]
  exact and_congr_right isSome_parse?_wholeLine_iff

end Pattern

end BuildTriage
