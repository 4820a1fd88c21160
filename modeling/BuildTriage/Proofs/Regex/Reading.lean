import BuildTriage.Proofs.Regex.SpliceClass

/-!
# Reading a pattern step by step

The reader of a pattern takes one step after the other: blanks are skipped, and then one sign, one
group's opening, one class or one atom is read (`ParseState.read?`). A step that succeeds on a text
succeeds with the same state on a longer one, and leaves what is left of the text with the ending
after it, unless a comment has swallowed the ending (`read?_carries`).
-/

namespace BuildTriage.Regex

variable {engine : Engine} {text text' : List Char}

/-! ## One step -/

/-- What is read in one step at the start of a text, and the state after it. -/
def ParseState.read? (engine : Engine) (s : ParseState) :
    List Char → Option (ParseState × List Char)
  | '(' :: rest => readGroup s rest
  | ')' :: rest => s.leave.map fun s => (s, rest)
  | '|' :: rest => some (s.bar, rest)
  | '[' :: rest => (readClass engine s.flags rest).map fun (item, rest) =>
    (s.push { regex := .chars item.set, depth := item.depth }, rest)
  | '?' :: rest => repetition 0 (some 1) rest
  | '*' :: rest => repetition 0 none rest
  | '+' :: rest => repetition 1 none rest
  | '\x7b' :: rest => do
    let (min, max, rest) ← readBounds s.flags rest
    repetition min max (s.flags.skip rest)
  | text => do
    let (atom, rest) ← readAtom s.flags text
    return (s.push { regex := ← atom.toRegex? engine s.flags }, rest)
where
  repetition (min : Nat) (max : Option Nat) (text : List Char) :
      Option (ParseState × List Char) :=
    (s.repeatLast min max (readLazy text).1).map fun s => (s, (readLazy text).2)

/-- Where nothing is left to read, no group may be open. -/
lemma parseFrom_of_skip_eq_nil {s : ParseState} (h : s.flags.skip text = []) (fuel : Nat) :
    parseFrom engine (fuel + 1) s text = if s.stack.isEmpty then some s else none := by
  rw [parseFrom, h]

/-- Elsewhere the reader goes on after one step. -/
lemma parseFrom_of_skip_ne_nil {s : ParseState} (h : s.flags.skip text ≠ []) (fuel : Nat) :
    parseFrom engine (fuel + 1) s text
      = s.read? engine (s.flags.skip text) >>= fun p => parseFrom engine fuel p.1 p.2 := by
  have hrepeat : ∀ (min : Nat) (max : Option Nat) (text : List Char),
      (s.repeatLast min max (readLazy text).1 >>= fun s =>
          parseFrom engine fuel s (readLazy text).2)
        = ParseState.read?.repetition s min max text >>= fun p => parseFrom engine fuel p.1 p.2 := by
    intro min max text
    rw [ParseState.read?.repetition]
    cases s.repeatLast min max (readLazy text).1 <;> rfl
  rw [parseFrom]
  dsimp only
  split
  · next heq => exact absurd heq h
  · next heq => rw [heq]; rfl
  · next heq =>
    rw [heq, ParseState.read?]
    cases s.leave <;> rfl
  · next heq => rw [heq]; rfl
  · next rest heq =>
    rw [heq, ParseState.read?]
    cases readClass engine s.flags rest <;> rfl
  · next heq => rw [heq]; exact hrepeat _ _ _
  · next heq => rw [heq]; exact hrepeat _ _ _
  · next heq => rw [heq]; exact hrepeat _ _ _
  · next rest heq =>
    rw [heq, ParseState.read?]
    cases readBounds s.flags rest with
    | none => rfl
    | some bounds => exact hrepeat _ _ _
  · next hopen hclose hbar hbracket hquestion hstar hplus hbrace =>
    rw [ParseState.read?.eq_9 engine s _ hopen hclose hbar hbracket hquestion hstar hplus hbrace]
    cases readAtom s.flags (s.flags.skip text) with
    | none => rfl
    | some found =>
      change (found.1.toRegex? engine s.flags >>= _)
        = ((found.1.toRegex? engine s.flags >>= _) >>= _)
      cases found.1.toRegex? engine s.flags <;> rfl

/-! ## The same step on a longer text -/

namespace readGroup

lemma named_carries (s : ParseState) (text : List Char) :
    Carries (SameThen Extends) (named s text) (named s (text ++ lineEnding)) := by
  refine (readName_carries true [] text).bind ?_
  rintro ⟨name, rest⟩ ⟨_, rest'⟩ ⟨rfl, hrest⟩
  dsimp only
  split
  · exact .none _
  · exact .some ⟨rfl, hrest⟩

lemma flagged_carries (s : ParseState) (text : List Char) :
    Carries (SameThen Extends) (flagged s text) (flagged s (text ++ lineEnding)) := by
  refine (readFlags_carries [] text).bind ?_
  rintro ⟨items, stop, rest⟩ ⟨_, _, rest'⟩ ⟨rfl, rfl, hrest⟩
  dsimp only
  split
  · exact .some ⟨rfl, hrest⟩
  · split
    · exact .none _
    · exact .some ⟨rfl, hrest⟩

lemma special_carries (s : ParseState) (text : List Char) :
    Carries (SameThen Extends) (special s text) (special s (text ++ lineEnding)) := by
  fun_cases special s text with
  | case1 rest => exact named_carries s rest
  | case6 rest hahead hbehind =>
    rw [List.cons_append, special.eq_6]
    · exact named_carries s rest
    · exact fun rest heq => (exists_of_append_eq_cons (by decide) heq).elim hahead
    · exact fun rest heq => (exists_of_append_eq_cons (by decide) heq).elim hbehind
  | case7 _ h₁ h₂ h₃ h₄ h₅ h₆ =>
    rw [special.eq_7]
    · exact flagged_carries s _
    · exact fun rest heq => (exists_of_append_eq_cons_cons (by decide) (by decide) heq).elim h₁
    · exact fun rest heq => (exists_of_append_eq_cons (by decide) heq).elim h₂
    · exact fun rest heq => (exists_of_append_eq_cons (by decide) heq).elim h₃
    · exact fun rest heq => (exists_of_append_eq_cons_cons (by decide) (by decide) heq).elim h₄
    · exact fun rest heq => (exists_of_append_eq_cons_cons (by decide) (by decide) heq).elim h₅
    · exact fun rest heq => (exists_of_append_eq_cons (by decide) heq).elim h₆
  | _ => exact .none _

end readGroup

lemma readGroup_carries (s : ParseState) (text : List Char) :
    Carries (SameThen Extends) (readGroup s text) (readGroup s (text ++ lineEnding)) := by
  have hskip := s.flags.skip_append text
  unfold readGroup
  split
  · next rest heq =>
    rw [Flags.skip_eq_cons (extends_append text) heq]
    exact readGroup.special_carries s rest
  · next hsign =>
    split
    · next rest heq =>
      rw [heq] at hskip
      exact (hskip.exists_cons (by decide)).elim fun rest h => (hsign rest h).elim
    · exact .some ⟨rfl, hskip⟩

namespace ParseState

lemma repetition_carries (s : ParseState) (min : Nat) (max : Option Nat) (h : Extends text text') :
    Carries (SameThen Extends) (read?.repetition s min max text)
      (read?.repetition s min max text') := by
  obtain ⟨hgreedy, hrest⟩ := readLazy_extends h
  rw [read?.repetition, read?.repetition, ← hgreedy]
  exact .map_same _ fun s => ⟨rfl, hrest⟩

/-- A step on a text is the same step on the text with the ending. -/
lemma read?_carries (s : ParseState) (hne : text ≠ []) :
    Carries (SameThen Extends) (s.read? engine text) (s.read? engine (text ++ lineEnding)) := by
  fun_cases read? engine s text with
  | case1 rest => exact readGroup_carries s rest
  | case2 rest => exact .map_same _ fun s => ⟨rfl, extends_append rest⟩
  | case3 rest => exact .some ⟨rfl, extends_append rest⟩
  | case4 rest =>
    refine (readClass_carries s.flags rest).map ?_
    rintro ⟨item, rest⟩ ⟨_, rest'⟩ ⟨rfl, hrest⟩
    exact ⟨rfl, hrest⟩
  | case5 rest => exact s.repetition_carries 0 (some 1) (extends_append rest)
  | case6 rest => exact s.repetition_carries 0 none (extends_append rest)
  | case7 rest => exact s.repetition_carries 1 none (extends_append rest)
  | case8 rest =>
    refine (readBounds_carries s.flags rest).bind ?_
    rintro ⟨min, max, rest⟩ ⟨_, _, rest'⟩ ⟨rfl, rfl, hrest⟩
    exact s.repetition_carries min max (s.flags.skip_extends hrest)
  | case9 _ hopen hclose hbar hbracket hquestion hstar hplus hbrace =>
    -- No sign stands here in the text, and so none does in the longer one.
    have hhead : ∀ {c : Char}, (∀ rest, text ≠ c :: rest) →
        ∀ rest, text ++ lineEnding ≠ c :: rest := by
      intro c hc rest heq
      obtain ⟨rest, rfl⟩ := exists_of_ne_nil hne heq
      exact hc rest rfl
    rw [read?.eq_9 engine s _ (hhead hopen) (hhead hclose) (hhead hbar) (hhead hbracket)
      (hhead hquestion) (hhead hstar) (hhead hplus) (hhead hbrace)]
    refine (readAtom_carries s.flags (extends_append text)).bind ?_
    rintro ⟨atom, rest⟩ ⟨_, rest'⟩ ⟨rfl, hrest⟩
    exact .bind_same _ fun regex => .some ⟨rfl, hrest⟩

end ParseState

end BuildTriage.Regex
