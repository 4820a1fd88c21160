import BuildTriage.Proofs.Regex.WholeLine

/-!
# Which regular expressions are accepted

A pattern is accepted if it can be read both by itself and inside the pattern of a whole line. A
pattern that is refused by itself is never accepted. The converse does not hold, as the text around
a pattern is simply put before and after it: a comment at the end of the pattern swallows what comes
after it, and a pattern that just keeps to the limits on nesting and size may exceed them with what
is around it. `Pattern.ofRegex_eq_ok_iff` says that nothing else can go wrong, whatever properties
the engine knows and however it measures the size of a compiled expression.
-/

namespace BuildTriage

namespace Regex

variable {engine : Engine}

/-- A pattern that can stand in the pattern of a whole line: no comment is open at its end, and what
is put around it keeps to the limits. -/
structure FitsInLine (engine : Engine) (pattern : List Char) : Prop where
  noComment : ¬EndsInComment engine pattern
  depth_le : ∀ item, item? engine pattern = some item → item.depth + 2 ≤ maxDepth
  fits : ∀ item, item? engine pattern = some item → engine.fits item.regex.inLine

/-- A pattern that is well-formed is so in the pattern of a whole line exactly if it fits there. -/
lemma isSome_parse?_wholeLine_iff {pattern : List Char} (h : (parse? pattern engine).isSome) :
    (parse? (Pattern.wholeLine pattern) engine).isSome ↔ FitsInLine engine pattern := by
  obtain ⟨probe, hprobe⟩ := Option.isSome_iff_exists.1 h
  obtain ⟨item, hitem, -, -, -⟩ := parse?_eq_some_iff.1 hprobe
  have hline := item?_wholeLine hitem
  constructor
  · intro hwhole
    obtain ⟨whole, hwhole⟩ := Option.isSome_iff_exists.1 hwhole
    obtain ⟨line, hfound, hdepth, hfits, -⟩ := parse?_eq_some_iff.1 hwhole
    rw [hfound] at hline
    split at hline
    · cases hline
    · next hcomment =>
      obtain rfl := Option.some.inj hline
      refine ⟨hcomment, fun other hother => ?_, fun other hother => ?_⟩
      · obtain rfl := Option.some.inj (hitem.symm.trans hother)
        exact hdepth
      · obtain rfl := Option.some.inj (hitem.symm.trans hother)
        exact hfits
  · intro hfits
    rw [if_neg hfits.noComment] at hline
    exact Option.isSome_iff_exists.2 ⟨_, parse?_eq_some_iff.2
      ⟨item.inLine, hline, hfits.depth_le item hitem, hfits.fits item hitem, rfl⟩⟩

end Regex

namespace Pattern

open Regex

lemma ofRegex_eq_ok_iff_isSome (engine : Engine) (source : String) :
    (∃ p, ofRegex source engine = .ok p) ↔
      (parse? source.toList engine).isSome ∧
        (parse? (wholeLine source.toList) engine).isSome := by
  unfold ofRegex
  cases parse? source.toList engine with
  | none => simp
  | some probe =>
    cases parse? (wholeLine source.toList) engine with
    | none => simp
    | some whole => simp

/-- **Which regular expressions are accepted.** Whatever the engine, those that are well-formed by
themselves and fit into the pattern of a whole line: they do not end in a comment, are nested two
levels less deep than is allowed, and the engine finds the expression for a whole line not too
large. -/
theorem ofRegex_eq_ok_iff (engine : Engine) (source : String) :
    (∃ p, ofRegex source engine = .ok p) ↔
      (parse? source.toList engine).isSome ∧ FitsInLine engine source.toList := by
  rw [ofRegex_eq_ok_iff_isSome]
  exact and_congr_right isSome_parse?_wholeLine_iff

/-- A comment that the pattern itself ends leaves the rest of the line alone, even if nothing but
blanks comes after it. -/
example : EndsInComment .standard "(?x)a # b".toList ∧
    ¬EndsInComment .standard "(?x)a # b\n ".toList := by
  decide

/-- Not every well-formed pattern is accepted: one that ends in a comment is refused. -/
theorem ofRegex_refuses_comment :
    ¬∀ source, (∃ p, ofRegex source = .ok p) ↔ (parse? source.toList).isSome := by
  intro h
  have hparse : (parse? "(?x)a#".toList).isSome = true := by decide
  obtain ⟨p, hp⟩ := (h "(?x)a#").2 hparse
  have herror : ofRegex "(?x)a#" = .error (.invalidRegex "(?x)a#") := by rfl
  rw [herror] at hp
  cases hp

end Pattern

end BuildTriage
