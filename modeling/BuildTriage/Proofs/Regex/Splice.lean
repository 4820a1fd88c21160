import BuildTriage.Regex.Parser
import Mathlib.Tactic.Lemma

/-!
# Reading the parts of a pattern inside a longer one

A pattern is spliced into the pattern of a whole line by putting text around it. Each reader that
succeeds on the pattern alone reads the same there and stops at the same place, in front of the text
that was put after it. There is one exception: where blanks are skipped, a comment at the end of the
pattern runs on into that text and leaves nothing to read. So the text that is left in the longer
pattern is what is left of the pattern with the ending after it, or nothing is left of either
(`Extends`).

The readers are compared one by one: what a reader yields on a text it yields on an extended one, up
to the text that is left (`Carries`).
-/

namespace BuildTriage.Regex

/-- What stands after a pattern in the pattern of a whole line. -/
def lineEnding : List Char := [')', '.', '*', '$']

/-- The second text is the first one with the ending, unless a comment swallowed it. -/
def Extends (text text' : List Char) : Prop :=
  text' = text ++ lineEnding ∨ text = [] ∧ text' = []

lemma extends_append (text : List Char) : Extends text (text ++ lineEnding) :=
  .inl rfl

lemma Extends.cons {c : Char} {rest text' : List Char} (h : Extends (c :: rest) text') :
    text' = c :: (rest ++ lineEnding) := by
  rcases h with rfl | ⟨hnil, -⟩
  · rfl
  · cases hnil

lemma Extends.of_ne_nil {text text' : List Char} (h : Extends text text') (hne : text ≠ []) :
    text' = text ++ lineEnding :=
  h.resolve_right fun hnil => hne hnil.1

lemma Extends.length_le {text text' : List Char} (h : Extends text text') :
    text.length ≤ text'.length := by
  rcases h with rfl | ⟨rfl, rfl⟩
  · rw [List.length_append]
    exact Nat.le_add_right _ _
  · exact Nat.le_refl _

/-- The character that an extended text begins with was there before. -/
lemma exists_of_ne_nil {text tail : List Char} {c : Char} (hne : text ≠ [])
    (h : text ++ lineEnding = c :: tail) : ∃ rest, text = c :: rest := by
  obtain ⟨d, rest, rfl⟩ := List.exists_cons_of_ne_nil hne
  exact ⟨rest, by rw [(List.cons.inj h).1]⟩

/-- The ending begins with a closing parenthesis, so any other character was there before it. -/
lemma exists_of_append_eq_cons {text tail : List Char} {c : Char} (hc : c ≠ ')')
    (h : text ++ lineEnding = c :: tail) : ∃ rest, text = c :: rest := by
  refine exists_of_ne_nil ?_ h
  rintro rfl
  exact hc (List.cons.inj h).1.symm

lemma Extends.exists_cons {text tail : List Char} {c : Char} (h : Extends text (c :: tail))
    (hc : c ≠ ')') : ∃ rest, text = c :: rest := by
  rcases h with h | ⟨-, h⟩
  · exact exists_of_append_eq_cons hc h.symm
  · cases h

lemma exists_of_append_eq_cons_cons {text tail : List Char} {c d : Char} (hc : c ≠ ')')
    (hd : d ≠ ')') (h : text ++ lineEnding = c :: d :: tail) : ∃ rest, text = c :: d :: rest := by
  obtain ⟨more, rfl⟩ := exists_of_append_eq_cons hc h
  obtain ⟨rest, rfl⟩ := exists_of_append_eq_cons hd (List.cons.inj h).2
  exact ⟨rest, rfl⟩

/-! ## Results that carry over -/

/-- What the first result holds the second one holds too, up to `R`. -/
def Carries {α : Type} (R : α → α → Prop) (r r' : Option α) : Prop :=
  ∀ a, r = some a → ∃ a', r' = some a' ∧ R a a'

/-- The first parts are the same, and the second ones are related by `R`. -/
def SameThen {α β : Type} (R : β → β → Prop) (p p' : α × β) : Prop :=
  p.1 = p'.1 ∧ R p.2 p'.2

namespace Carries

variable {α β : Type} {R : α → α → Prop} {Q : β → β → Prop}

lemma none (r' : Option α) : Carries R none r' :=
  nofun

lemma some {a a' : α} (h : R a a') : Carries R (some a) (some a') := by
  rintro _ ⟨⟩
  exact ⟨a', rfl, h⟩

lemma bind {r r' : Option α} {f f' : α → Option β} (h : Carries R r r')
    (hf : ∀ a a', R a a' → Carries Q (f a) (f' a')) : Carries Q (r >>= f) (r' >>= f') := by
  intro b hb
  obtain ⟨a, rfl, hb⟩ := Option.bind_eq_some_iff.1 hb
  obtain ⟨a', rfl, ha⟩ := h a rfl
  exact hf a a' ha b hb

/-- What is read before the two readers part need not be looked at. -/
lemma bind_same (r : Option α) {f f' : α → Option β} (hf : ∀ a, Carries Q (f a) (f' a)) :
    Carries Q (r >>= f) (r >>= f') := by
  cases r with
  | none => exact Carries.none _
  | some a => exact hf a

lemma map {r r' : Option α} {f f' : α → β} (h : Carries R r r')
    (hf : ∀ a a', R a a' → Q (f a) (f' a')) : Carries Q (r.map f) (r'.map f') := by
  intro b hb
  obtain ⟨a, rfl, rfl⟩ := Option.map_eq_some_iff.1 hb
  obtain ⟨a', rfl, ha⟩ := h a rfl
  exact ⟨f' a', rfl, hf a a' ha⟩

lemma map_same (r : Option α) {f f' : α → β} (hf : ∀ a, Q (f a) (f' a)) :
    Carries Q (r.map f) (r.map f') := by
  cases r with
  | none => exact Carries.none _
  | some a => exact Carries.some (hf a)

end Carries

/-! ## Blanks -/

namespace Flags

/-- A comment that is open at the end of the pattern runs on to the end of the longer one. -/
lemma skipBlanks_extends (inComment : Bool) (text : List Char) :
    Extends (skipBlanks inComment text) (skipBlanks inComment (text ++ lineEnding)) := by
  induction text generalizing inComment with
  | nil =>
    cases inComment with
    | true => exact .inr ⟨rfl, by decide⟩
    | false => exact .inl (by decide)
  | cons c text ih =>
    rw [List.cons_append, skipBlanks, skipBlanks]
    split
    · exact ih _
    · split
      · exact ih _
      · split
        · exact ih _
        · exact .inl rfl

lemma skip_extends (flags : Flags) {text text' : List Char} (h : Extends text text') :
    Extends (flags.skip text) (flags.skip text') := by
  rcases h with rfl | ⟨rfl, rfl⟩
  · unfold skip
    split
    · exact skipBlanks_extends false text
    · exact .inl rfl
  · unfold skip
    split
    · exact .inr ⟨rfl, rfl⟩
    · exact .inr ⟨rfl, rfl⟩

lemma length_skipBlanks_le (inComment : Bool) (text : List Char) :
    (skipBlanks inComment text).length ≤ text.length := by
  induction text generalizing inComment with
  | nil => exact Nat.le_refl 0
  | cons c text ih =>
    rw [skipBlanks]
    split
    · exact Nat.le_succ_of_le (ih _)
    · split
      · exact Nat.le_succ_of_le (ih _)
      · split
        · exact Nat.le_succ_of_le (ih _)
        · exact Nat.le_refl _

lemma length_skip_le (flags : Flags) (text : List Char) :
    (flags.skip text).length ≤ text.length := by
  unfold skip
  split
  · exact length_skipBlanks_le false text
  · exact Nat.le_refl _

lemma skip_append (flags : Flags) (text : List Char) :
    Extends (flags.skip text) (flags.skip (text ++ lineEnding)) :=
  flags.skip_extends (extends_append text)

/-- A character that is left where blanks are skipped is left in an extended text, too. -/
lemma skip_eq_cons {flags : Flags} {text text' rest : List Char} {c : Char}
    (h : Extends text text') (hskip : flags.skip text = c :: rest) :
    flags.skip text' = c :: (rest ++ lineEnding) :=
  (hskip ▸ flags.skip_extends h).cons

end Flags

variable {text text' : List Char}

/-- The second text is the first one, which is not empty, with the ending. -/
def Within (text text' : List Char) : Prop :=
  text ≠ [] ∧ text' = text ++ lineEnding

lemma within_cons (c : Char) (rest : List Char) : Within (c :: rest) (c :: (rest ++ lineEnding)) :=
  ⟨List.cons_ne_nil c rest, rfl⟩

lemma nonEmpty_carries (h : Extends text text') :
    Carries Within (nonEmpty text) (nonEmpty text') := by
  cases text with
  | nil => exact .none _
  | cons c rest =>
    rw [h.cons]
    exact .some (within_cons c rest)

/-! ## Escapes -/

lemma readHexDigits_carries (flags : Flags) (count value : Nat) (h : Extends text text') :
    Carries (SameThen Extends) (readHexDigits flags count value text)
      (readHexDigits flags count value text') := by
  induction count generalizing value text text' with
  | zero => exact .some ⟨rfl, h⟩
  | succ count ih =>
    cases text with
    | nil => exact .none _
    | cons c text =>
      rw [h.cons]
      exact .bind_same _ fun d => ih _ (flags.skip_append text)

lemma readBracedHex_carries (flags : Flags) {fuel fuel' : Nat} (hfuel : fuel ≤ fuel')
    (value : Option Nat) (h : Extends text text') :
    Carries (SameThen Extends) (readBracedHex flags fuel value text)
      (readBracedHex flags fuel' value text') := by
  induction fuel generalizing fuel' value text text' with
  | zero => exact .none _
  | succ fuel ih =>
    obtain ⟨fuel', rfl⟩ := Nat.exists_eq_add_of_le' (Nat.zero_lt_of_lt hfuel)
    cases text with
    | nil => exact .none _
    | cons c text =>
      rw [h.cons]
      by_cases hc : c = '\x7d'
      · subst hc
        exact .map_same _ fun n => ⟨rfl, flags.skip_append text⟩
      · rw [readBracedHex.eq_4 _ _ _ _ _ hc, readBracedHex.eq_4 _ _ _ _ _ hc]
        exact .bind_same _ fun d => ih (Nat.le_of_succ_le_succ hfuel) _ (flags.skip_append text)

lemma readHex_readCode_carries (flags : Flags) (count : Nat) (h : Extends text text') :
    Carries (SameThen Extends) (readHex.readCode flags count text)
      (readHex.readCode flags count text') := by
  fun_cases readHex.readCode flags count text with
  | case1 rest =>
    rw [h.cons]
    exact readBracedHex_carries flags (by simp) none (flags.skip_append rest)
  | case2 _ hbrace =>
    rw [readHex.readCode.eq_2]
    · exact readHexDigits_carries flags count 0 h
    · rintro rest rfl
      exact (h.exists_cons (by decide)).elim hbrace

lemma readHex_carries (flags : Flags) (count : Nat) (h : Extends text text') :
    Carries (SameThen Extends) (readHex flags count text) (readHex flags count text') := by
  refine (readHex_readCode_carries flags count h).bind ?_
  rintro ⟨n, rest⟩ ⟨_, rest'⟩ ⟨rfl, hrest⟩
  exact .bind_same _ fun c => .some ⟨rfl, hrest⟩

lemma readHexAtom_carries (flags : Flags) (count : Nat) (text : List Char) :
    Carries (SameThen Extends) (readHexAtom flags count text)
      (readHexAtom flags count (text ++ lineEnding)) := by
  unfold readHexAtom
  rcases htext : flags.skip text with _ | ⟨d, rest⟩
  · exact .none _
  · rw [Flags.skip_eq_cons (extends_append text) htext]
    refine (readHex_carries flags count (extends_append (d :: rest))).map ?_
    rintro ⟨n, rest⟩ ⟨_, rest'⟩ ⟨rfl, hrest⟩
    exact ⟨rfl, hrest⟩

/-! ## Edges of words -/

/-- A name that ends within the text ends there in an extended one, too. The fuel is more than the
length of the text, so that it is not what ends the name. -/
lemma readEdgeName_append (flags : Flags) {fuel fuel' : Nat} (hfuel : fuel ≤ fuel')
    (hlen : text.length < fuel) {name found : List Char} {c : Char} {rest : List Char}
    (hread : readEdgeName flags fuel name text = (found, c :: rest)) (h : Extends text text') :
    readEdgeName flags fuel' name text' = (found, c :: (rest ++ lineEnding)) := by
  induction fuel generalizing fuel' name text text' with
  | zero => cases hlen
  | succ fuel ih =>
    obtain ⟨fuel', rfl⟩ := Nat.exists_eq_add_of_le' (Nat.zero_lt_of_lt hfuel)
    cases text with
    | nil => cases hread
    | cons d text =>
      rw [h.cons]
      rw [readEdgeName] at hread ⊢
      split at hread
      · next hname =>
        have hskip := flags.length_skip_le text
        rw [List.length_cons] at hlen
        rw [if_pos hname]
        exact ih (Nat.le_of_succ_le_succ hfuel) (by omega) hread (flags.skip_append text)
      · next hname =>
        rw [if_neg hname]
        cases hread
        rfl

lemma readWordEdge_carries (flags : Flags) (text : List Char) :
    Carries (SameThen Extends) (readWordEdge flags text)
      (readWordEdge flags (text ++ lineEnding)) := by
  fun_cases readWordEdge flags text with
  | case2 rest d inner htext hname =>
    rw [List.cons_append, readWordEdge, Flags.skip_eq_cons (extends_append rest) htext]
    dsimp only
    rw [if_pos hname]
    exact .some ⟨rfl, extends_append ('\x7b' :: rest)⟩
  | case3 rest d inner htext hname name more hread =>
    have hmore : readEdgeName flags ((inner ++ lineEnding).length + 2) []
        (d :: (inner ++ lineEnding)) = (name, '\x7d' :: (more ++ lineEnding)) :=
      readEdgeName_append flags (by simp) (by simp) hread (extends_append (d :: inner))
    rw [List.cons_append, readWordEdge, Flags.skip_eq_cons (extends_append rest) htext]
    dsimp only
    rw [if_neg hname, hmore]
    exact .map_same _ fun edge => ⟨rfl, extends_append more⟩
  | case5 _ hbrace =>
    rw [readWordEdge.eq_2]
    · exact .some ⟨rfl, extends_append text⟩
    · intro rest heq
      exact (exists_of_append_eq_cons (by decide) heq).elim hbrace
  | _ => exact .none _

/-! ## Properties -/

lemma readPropertyText_carries (flags : Flags) {fuel fuel' : Nat} (hfuel : fuel ≤ fuel')
    (name : List Char) (h : Extends text text') :
    Carries (SameThen Extends) (readPropertyText flags fuel name text)
      (readPropertyText flags fuel' name text') := by
  induction fuel generalizing fuel' name text text' with
  | zero => exact .none _
  | succ fuel ih =>
    obtain ⟨fuel', rfl⟩ := Nat.exists_eq_add_of_le' (Nat.zero_lt_of_lt hfuel)
    cases text with
    | nil => exact .none _
    | cons c text =>
      rw [h.cons]
      by_cases hc : c = '\x7d'
      · subst hc
        exact .some ⟨rfl, extends_append text⟩
      · rw [readPropertyText.eq_4 _ _ _ _ _ hc, readPropertyText.eq_4 _ _ _ _ _ hc]
        exact ih (Nat.le_of_succ_le_succ hfuel) _ (flags.skip_append text)

lemma readProperty_carries (flags : Flags) (text : List Char) :
    Carries (SameThen Extends) (readProperty flags text)
      (readProperty flags (text ++ lineEnding)) := by
  fun_cases readProperty flags text with
  | case1 => exact .none _
  | case2 rest htext =>
    rw [readProperty, Flags.skip_eq_cons (extends_append text) htext]
    exact readPropertyText_carries flags (by simp) [] (flags.skip_append rest)
  | case3 => exact .none _
  | case4 c rest hbrace hescape htext =>
    rw [readProperty, Flags.skip_eq_cons (extends_append text) htext]
    split
    · next heq => cases heq
    · next heq => exact (hbrace (List.cons.inj heq).1).elim
    · next heq => exact (hescape (List.cons.inj heq).1).elim
    · next heq =>
      cases heq
      exact .some ⟨rfl, extends_append rest⟩

/-! ## Atoms -/

/-- A property is an atom whichever of the two letters asks for it. -/
lemma readProperty_map_carries (flags : Flags) (negated : Bool) (text : List Char) :
    Carries (SameThen Extends)
      ((readProperty flags text).map fun (name, rest) => (Atom.property name negated, rest))
      ((readProperty flags (text ++ lineEnding)).map fun (name, rest) =>
        (Atom.property name negated, rest)) := by
  refine (readProperty_carries flags text).map ?_
  rintro ⟨name, rest⟩ ⟨_, rest'⟩ ⟨rfl, hrest⟩
  exact ⟨rfl, hrest⟩

lemma readEscape_carries (flags : Flags) (h : Extends text text') :
    Carries (SameThen Extends) (readEscape flags text) (readEscape flags text') := by
  rcases text with _ | ⟨c, text⟩
  · exact .none _
  · rw [h.cons]
    have hplain : ∀ atom : Atom, Carries (SameThen Extends) (some (atom, text))
        (some (atom, text ++ lineEnding)) := fun atom => .some ⟨rfl, extends_append text⟩
    unfold readEscape
    dsimp only
    split
    case h_1 => exact readHexAtom_carries flags 2 text
    case h_2 => exact readHexAtom_carries flags 4 text
    case h_3 => exact readHexAtom_carries flags 8 text
    case h_4 => exact readProperty_map_carries flags false text
    case h_5 => exact readProperty_map_carries flags true text
    case h_20 =>
      refine (readWordEdge_carries flags text).map ?_
      rintro ⟨edge, rest⟩ ⟨_, rest'⟩ ⟨rfl, hrest⟩
      exact ⟨rfl, hrest⟩
    case h_24 =>
      split
      · exact hplain _
      · exact .none _
    all_goals exact hplain _

lemma readAtom_carries (flags : Flags) (h : Extends text text') :
    Carries (SameThen Extends) (readAtom flags text) (readAtom flags text') := by
  fun_cases readAtom flags text with
  | case1 => exact .none _
  | case2 =>
    rw [h.cons]
    exact readEscape_carries flags (extends_append _)
  | case6 c _ h₁ h₂ h₃ h₄ =>
    rw [h.cons, readAtom.eq_6 flags c _ h₁ h₂ h₃ h₄]
    exact .some ⟨rfl, extends_append _⟩
  | _ =>
    rw [h.cons]
    exact .some ⟨rfl, extends_append _⟩

/-! ## Flags and names -/

lemma readFlags_carries (items : List FlagItem) (text : List Char) :
    Carries (SameThen (SameThen Extends)) (readFlags items text)
      (readFlags items (text ++ lineEnding)) := by
  induction text generalizing items with
  | nil => exact .none _
  | cons c rest ih =>
    rw [List.cons_append, readFlags, readFlags]
    split
    · split
      · exact .none _
      · exact .some ⟨rfl, rfl, extends_append rest⟩
    · split
      · split
        · exact .none _
        · exact ih _
      · refine .bind_same _ fun flag => ?_
        split
        · exact .none _
        · exact ih _

lemma readName_carries (first : Bool) (name text : List Char) :
    Carries (SameThen Extends) (readName first name text)
      (readName first name (text ++ lineEnding)) := by
  fun_induction readName first name text with
  | case1 => exact .none _
  | case2 => exact .none _
  | case3 first name rest hname =>
    rw [List.cons_append, readName, if_neg hname]
    exact .some ⟨rfl, extends_append rest⟩
  | case4 first name c rest hc hname ih =>
    rw [List.cons_append, readName.eq_3 _ _ _ _ hc, if_pos hname]
    exact ih
  | case5 => exact .none _

/-! ## Counts and bounds -/

lemma readCount_go_extends (flags : Flags) {fuel fuel' : Nat} (hfuel : fuel ≤ fuel')
    (hlen : text.length < fuel) (digits : List Char) (h : Extends text text') :
    SameThen Extends (readCount.go flags fuel digits text)
      (readCount.go flags fuel' digits text') := by
  induction fuel generalizing fuel' digits text text' with
  | zero => cases hlen
  | succ fuel ih =>
    obtain ⟨fuel', rfl⟩ := Nat.exists_eq_add_of_le' (Nat.zero_lt_of_lt hfuel)
    cases text with
    | nil =>
      rcases h with rfl | ⟨-, rfl⟩
      · exact ⟨rfl, .inl rfl⟩
      · exact ⟨rfl, .inr ⟨rfl, rfl⟩⟩
    | cons c rest =>
      rw [h.cons, readCount.go, readCount.go]
      split
      · have hskip := flags.length_skip_le rest
        rw [List.length_cons] at hlen
        exact ih (Nat.le_of_succ_le_succ hfuel) (by omega) _ (flags.skip_append rest)
      · exact ⟨rfl, extends_append (c :: rest)⟩

lemma readCount_trail_extends (flags : Flags) {fuel fuel' : Nat} (hfuel : fuel ≤ fuel')
    (hlen : text.length < fuel) (h : Extends text text') :
    Extends (readCount.trail flags fuel text) (readCount.trail flags fuel' text') := by
  induction fuel generalizing fuel' text text' with
  | zero => cases hlen
  | succ fuel ih =>
    obtain ⟨fuel', rfl⟩ := Nat.exists_eq_add_of_le' (Nat.zero_lt_of_lt hfuel)
    cases text with
    | nil =>
      rcases h with rfl | ⟨-, rfl⟩
      · exact .inl rfl
      · exact .inr ⟨rfl, rfl⟩
    | cons c rest =>
      rw [h.cons, readCount.trail, readCount.trail]
      split
      · have hskip := flags.length_skip_le rest
        rw [List.length_cons] at hlen
        exact ih (Nat.le_of_succ_le_succ hfuel) (by omega) (flags.skip_append rest)
      · exact extends_append (c :: rest)

lemma dropWhile_isWhiteSpace_extends (text : List Char) :
    Extends (text.dropWhile Text.isWhiteSpace)
      ((text ++ lineEnding).dropWhile Text.isWhiteSpace) := by
  rw [List.dropWhile_append]
  split
  · next hblank =>
    rw [List.isEmpty_iff.1 hblank]
    exact .inl (by decide)
  · exact .inl rfl

lemma readCount_extends (flags : Flags) (text : List Char) :
    SameThen Extends (readCount flags text) (readCount flags (text ++ lineEnding)) := by
  have hdrop := (List.dropWhile_sublist (l := text) Text.isWhiteSpace).length_le
  have hfuel : text.length + 1 ≤ (text ++ lineEnding).length + 1 :=
    Nat.succ_le_succ (extends_append text).length_le
  obtain ⟨hdigits, hrest⟩ := readCount_go_extends flags hfuel (Nat.lt_succ_of_le hdrop) []
    (dropWhile_isWhiteSpace_extends text)
  exact ⟨hdigits, readCount_trail_extends flags (Nat.succ_le_succ hrest.length_le)
    (Nat.lt_succ_self _) hrest⟩

lemma readMax_carries (flags : Flags) (minDigits text : List Char) :
    Carries (SameThen (SameThen Extends)) (readBounds.readMax flags minDigits text)
      (readBounds.readMax flags minDigits (text ++ lineEnding)) := by
  fun_cases readBounds.readMax flags minDigits text with
  | case1 rest => exact .bind_same _ fun min => .some ⟨rfl, rfl, extends_append rest⟩
  | case2 _ hbrace =>
    rw [readBounds.readMax.eq_2]
    · refine .bind_same _ fun min => ?_
      have hcount := readCount_extends flags text
      generalize readCount flags text = counted at hcount
      generalize readCount flags (text ++ lineEnding) = counted' at hcount
      obtain ⟨digits, rest⟩ := counted
      obtain ⟨_, rest'⟩ := counted'
      obtain ⟨rfl, hrest⟩ := hcount
      refine .bind_same _ fun max => ?_
      dsimp only at hrest ⊢
      split
      · rw [hrest.cons]
        split
        · exact .some ⟨rfl, rfl, extends_append _⟩
        · exact .none _
      · exact .none _
    · intro rest heq
      exact (exists_of_append_eq_cons (by decide) heq).elim hbrace

lemma readBounds_carries (flags : Flags) (text : List Char) :
    Carries (SameThen (SameThen Extends)) (readBounds flags text)
      (readBounds flags (text ++ lineEnding)) := by
  refine (nonEmpty_carries (flags.skip_append text)).bind ?_
  rintro text _ ⟨-, rfl⟩
  have hcount := readCount_extends flags text
  generalize readCount flags text = counted at hcount
  generalize readCount flags (text ++ lineEnding) = counted' at hcount
  obtain ⟨digits, rest⟩ := counted
  obtain ⟨_, rest'⟩ := counted'
  obtain ⟨rfl, hrest⟩ := hcount
  dsimp only at hrest ⊢
  split
  · rw [hrest.cons]
    refine (nonEmpty_carries (flags.skip_append _)).bind ?_
    rintro text _ ⟨-, rfl⟩
    exact readMax_carries flags digits text
  · rw [hrest.cons]
    exact .bind_same _ fun n => .some ⟨rfl, rfl, extends_append _⟩
  · exact .none _

lemma readLazy_extends (h : Extends text text') :
    SameThen Extends (readLazy text) (readLazy text') := by
  fun_cases readLazy text with
  | case1 rest =>
    rw [h.cons]
    exact ⟨rfl, extends_append rest⟩
  | case2 _ hsign =>
    rw [readLazy.eq_2]
    · exact ⟨rfl, h⟩
    · rintro rest rfl
      exact (h.exists_cons (by decide)).elim hsign

end BuildTriage.Regex
