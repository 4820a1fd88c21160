import BuildTriage.Proofs.Log.Gap
import BuildTriage.Proofs.Triage.Catalogue
import Mathlib.Tactic.FinCases

/-!
# The signatures that are regular expressions

All of them have one form: plain characters and dots, then `.*`, then plain characters and dots
again (`Signature.exists_gapPattern_eq`). What is reported for a line can therefore be said without
any regular expression, in terms of where the two parts occur in the line
(`Pattern.find?_ofRegex_gap`).
-/

namespace BuildTriage

open Regex

/-- Every regular expression among the signatures is a pattern with a gap, and is accepted. -/
lemma Signature.exists_gapPattern_eq :
    ∀ source ∈ Signature.regexes, ∃ a b, String.ofList (gapPattern a b) = source ∧
      ∃ p, Pattern.ofRegex source = .ok p := by
  -- The only asterisk of each is that of the gap, with the dot before it.
  have hsplit : ∀ source ∈ Signature.regexes, ∃ text, source = String.ofList text ∧
      gapPattern ((text.takeWhile (· != '*')).dropLast.map .ofChar)
        ((text.dropWhile (· != '*')).tail.map .ofChar) = text := by
    intro source hsource
    fin_cases hsource
    all_goals exact ⟨_, rfl, by decide +kernel⟩
  intro source hsource
  obtain ⟨text, htext, hsplit⟩ := hsplit source hsource
  refine ⟨_, _, by rw [hsplit, htext], ?_⟩
  obtain ⟨p, hp⟩ := Option.isSome_iff_exists.1 (regexes_wellFormed source hsource)
  rw [Registration.pattern?] at hp
  cases hok : Pattern.ofRegex source with
  | error e => rw [hok] at hp; cases hp
  | ok p => exact ⟨p, rfl⟩

namespace Pattern

/-- **A pattern with a gap is searched for from its last start to its last end.** Let `a` and `b` be
sequences of plain characters and dots, possibly empty, and let a line have no line feed. Then
`a.*b` matches the line exactly if some occurrence of `a` ends where some occurrence of `b` starts or
before, and the text reported runs from the start of the last such occurrence of `a` to the end of
the last occurrence of `b` in the line. This holds with every engine that accepts the pattern, and
an engine accepts it unless it finds the pattern too large, by itself or within a line. Every regular
expression among the signatures is such a pattern, and is accepted. -/
theorem find?_ofRegex_gap :
    (∀ source ∈ Signature.regexes, ∃ a b, String.ofList (gapPattern a b) = source ∧
      ∃ p, ofRegex source = .ok p) ∧
    ∀ (engine : Engine) (a b : List Glyph),
      ((∃ p, ofRegex (String.ofList (gapPattern a b)) engine = .ok p) ↔
        engine.fits (gap a b) ∧ engine.fits (inLine (gap a b))) ∧
      ∀ p, ofRegex (String.ofList (gapPattern a b)) engine = .ok p →
        ∀ line : List Char, '\n' ∉ line →
        ((p.find? line).isSome ↔
          ∃ s t, OccursAt a line s ∧ OccursAt b line t ∧ s + a.length ≤ t) ∧
        ∀ text, p.find? line = some text ↔
          ∃ s t, IsGreatest (gapStarts a b line) s ∧ IsGreatest {t | OccursAt b line t} t ∧
            text = slice line s (t + b.length) := by
  refine ⟨Signature.exists_gapPattern_eq, fun engine a b =>
    ⟨ofRegex_gapPattern_eq_ok_iff engine a b, ?_⟩⟩
  intro p hp line hline
  obtain ⟨probe, hprobe, -, rfl⟩ := exists_of_ofRegex_eq_ok hp
  rw [String.toList_ofList] at hprobe
  obtain ⟨rfl, -⟩ := parse?_gapPattern_eq_some_iff.1 hprobe
  rw [find?_regex_inLine]
  refine ⟨?_, capture?_gap_iff hline⟩
  rw [isSome_capture?_gap_iff hline]
  constructor
  · rintro ⟨s, ha, t, hb, hle⟩
    exact ⟨s, t, ha, hb, hle⟩
  · rintro ⟨s, t, ha, hb, hle⟩
    exact ⟨s, ha, t, hb, hle⟩

/-- Of two users the last one is reported, and up to the last of two ends. -/
theorem find?_ofRegex_gap_last_user :
    let a := "User \"".toList.map Glyph.ofChar
    let b := "\" cannot create".toList.map Glyph.ofChar
    let line := "User \"a\" cannot create User \"b\" cannot create\" cannot create.".toList
    ∃ p, ofRegex "User \".*\" cannot create" = .ok p ∧
      String.ofList (gapPattern a b) = "User \".*\" cannot create" ∧
      p.find? line = some "User \"b\" cannot create\" cannot create" := by
  intro a b line
  obtain ⟨hok, hfind⟩ := find?_ofRegex_gap.2 .standard a b
  have hsource : String.ofList (gapPattern a b) = "User \".*\" cannot create" := by decide
  obtain ⟨p, hp⟩ := hok.2 ⟨by decide, by decide⟩
  obtain ⟨-, hreport⟩ := hfind p hp line (by decide)
  have hstart : ∀ s < line.length, OccursAt a line s → s ≤ 23 := by decide
  have hstop : ∀ t < line.length, OccursAt b line t → t ≤ 45 := by decide
  have hwithin : ∀ {gs : List Glyph} {i : Nat}, 0 < gs.length → OccursAt gs line i →
      i < line.length := by
    intro gs i hpos h
    exact Nat.lt_of_lt_of_le (Nat.lt_add_of_pos_right hpos) h.add_length_le
  refine ⟨p, hsource ▸ hp, hsource, (hreport _).2 ⟨23, 45, ⟨?_, ?_⟩, ⟨?_, ?_⟩, by decide⟩⟩
  · exact ⟨by decide, 45, by decide, by decide⟩
  · exact fun s hs => hstart s (hwithin (by decide) hs.1) hs.1
  · exact (by decide : OccursAt b line 45)
  · exact fun t ht => hstop t (hwithin (by decide) ht) ht

end Pattern

end BuildTriage
