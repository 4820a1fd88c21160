import BuildTriage.Text.Quoted
import Mathlib.Algebra.Group.Nat.Defs
import Mathlib.Tactic.Lemma

/-!
# What a quoted text says

A quoted text can be read back in one way only, whatever is written after it: the quotes around it
say where it ends, and the escapes within it say what it is (`quoted_append_inj`). A character is
written as itself, by an escape of one letter, or by its code point, `quotedChar_cases`. The forms
differ in their first two characters; and as each of them ends where its own text says so, a form
that is read does not depend on what follows (`quotedChar_append_inj`).
-/

namespace BuildTriage.Text

/-! ## Code points -/

/-- Texts before the first occurrence of a character are told apart by what is written there. -/
lemma append_cons_inj_of_notMem {c : Char} {front front' rest rest' : List Char} (h : c ∉ front)
    (h' : c ∉ front') (heq : front ++ c :: rest = front' ++ c :: rest') :
    front = front' ∧ rest = rest' := by
  induction front generalizing front' with
  | nil =>
    cases front' with
    | nil => exact ⟨rfl, (List.cons.inj heq).2⟩
    | cons d front' =>
      obtain ⟨rfl, -⟩ := List.cons.inj heq
      exact absurd List.mem_cons_self h'
  | cons d front ih =>
    cases front' with
    | nil =>
      obtain ⟨rfl, -⟩ := List.cons.inj heq
      exact absurd List.mem_cons_self h
    | cons d' front' =>
      obtain ⟨rfl, htail⟩ := List.cons.inj heq
      obtain ⟨rfl, rfl⟩ := ih (List.not_mem_of_not_mem_cons h) (List.not_mem_of_not_mem_cons h')
        htail
      exact ⟨rfl, rfl⟩

/-- A number is told by its hexadecimal digits. -/
lemma toDigits_sixteen_inj {m n : Nat} (h : Nat.toDigits 16 m = Nat.toDigits 16 n) : m = n := by
  have hdigit : ∀ i < 16, ∀ j < 16, i.digitChar = j.digitChar → i = j := by decide
  have hne (k : Nat) : Nat.toDigits 16 k ≠ [] := Nat.toDigits_ne_nil
  induction m using Nat.strongRecOn generalizing n with
  | _ m ih =>
    by_cases hm : m < 16
    · by_cases hn : n < 16
      · rw [Nat.toDigits_of_lt_base hm, Nat.toDigits_of_lt_base hn, List.singleton_inj] at h
        exact hdigit m hm n hn h
      · rw [Nat.toDigits_of_lt_base hm, Nat.toDigits_of_base_le (by decide) (by omega),
          List.singleton_eq_append_iff] at h
        simp [hne] at h
    · by_cases hn : n < 16
      · rw [Nat.toDigits_of_lt_base hn, Nat.toDigits_of_base_le (by decide) (by omega),
          List.append_eq_singleton_iff] at h
        simp [hne] at h
      · rw [Nat.toDigits_of_base_le (by decide) (Nat.le_of_not_lt hm),
          Nat.toDigits_of_base_le (by decide) (Nat.le_of_not_lt hn)] at h
        obtain ⟨hfront, hlast⟩ := List.append_inj' h rfl
        have hdiv : m / 16 = n / 16 := ih (m / 16) (by omega) hfront
        have hmod : m % 16 = n % 16 :=
          hdigit _ (Nat.mod_lt _ (by decide)) _ (Nat.mod_lt _ (by decide))
            (List.singleton_inj.1 hlast)
        omega

lemma brace_notMem_toDigits (n : Nat) : '\x7d' ∉ Nat.toDigits 16 n := by
  have hdigit : ∀ k < 16, '\x7d' ≠ k.digitChar := by decide
  induction n using Nat.strongRecOn with
  | _ n ih =>
    by_cases hn : n < 16
    · rw [Nat.toDigits_of_lt_base hn, List.mem_singleton]
      exact hdigit n hn
    · rw [Nat.toDigits_of_base_le (by decide) (Nat.le_of_not_lt hn), List.mem_append,
        List.mem_singleton, not_or]
      exact ⟨ih (n / 16) (by omega), hdigit _ (Nat.mod_lt _ (by decide))⟩

/-- An escape by the code point tells the character and where the escape ends. -/
lemma codePointEscape_append_inj {c d : Char} {rest rest' : List Char}
    (h : codePointEscape c ++ rest = codePointEscape d ++ rest') : c = d ∧ rest = rest' := by
  simp only [codePointEscape, List.cons_append, List.append_assoc, List.cons.injEq, true_and,
    List.nil_append] at h
  obtain ⟨hdigits, hrest⟩ :=
    append_cons_inj_of_notMem (brace_notMem_toDigits _) (brace_notMem_toDigits _) h
  exact ⟨Char.toNat_inj.1 (toDigits_sixteen_inj hdigits), hrest⟩

/-! ## Characters -/

/-- The characters that are written by a backslash and a letter, with the letter. -/
def letterEscapes : List (Char × Char) :=
  [('"', '"'), ('\\', '\\'), ('\t', 't'), ('\n', 'n'), ('\r', 'r'), ('\x00', '0')]

/-- A character is written by a letter, by its code point, or as itself. -/
lemma quotedChar_cases (c : Char) :
    (∃ letter, (c, letter) ∈ letterEscapes ∧ quotedChar c = ['\\', letter]) ∨
      quotedChar c = codePointEscape c ∨ (c ≠ '"' ∧ c ≠ '\\' ∧ quotedChar c = [c]) := by
  unfold quotedChar
  split
  case h_7 hquote hbackslash _ _ _ _ =>
    split
    · exact .inr (.inl rfl)
    · exact .inr (.inr ⟨hquote, hbackslash, rfl⟩)
  all_goals
    refine .inl ⟨_, ?_, rfl⟩
    decide

/-- The letter of an escape tells the character, and that the escape has no code point. -/
lemma letterEscapes_spec :
    ∀ e ∈ letterEscapes, e.2 ≠ 'u' ∧ ∀ e' ∈ letterEscapes, e.2 = e'.2 → e.1 = e'.1 := by
  decide

/-- What is written for a character tells the character and where it ends. -/
lemma quotedChar_append_inj {c d : Char} {rest rest' : List Char}
    (h : quotedChar c ++ rest = quotedChar d ++ rest') : c = d ∧ rest = rest' := by
  rcases quotedChar_cases c with ⟨letter, hc, hwritten⟩ | hwritten | ⟨-, hc, hwritten⟩ <;>
    rcases quotedChar_cases d with ⟨letter', hd, hwritten'⟩ | hwritten' | ⟨-, hd, hwritten'⟩ <;>
    rw [hwritten, hwritten'] at h
  -- A letter: the other character has no code point there, and is no backslash.
  · obtain ⟨hletter, hrest⟩ := List.cons.inj (List.cons.inj h).2
    exact ⟨(letterEscapes_spec _ hc).2 _ hd hletter, hrest⟩
  · exact absurd (List.cons.inj (List.cons.inj h).2).1 (letterEscapes_spec _ hc).1
  · exact absurd (List.cons.inj h).1.symm hd
  -- A code point.
  · exact absurd (List.cons.inj (List.cons.inj h).2).1.symm (letterEscapes_spec _ hd).1
  · exact codePointEscape_append_inj h
  · exact absurd (List.cons.inj h).1.symm hd
  -- The character itself, which is no backslash.
  · exact absurd (List.cons.inj h).1 hc
  · exact absurd (List.cons.inj h).1 hc
  · exact List.cons.inj h

/-- No character is written with a quote in front. -/
lemma quotedChar_append_ne (c : Char) (rest rest' : List Char) :
    quotedChar c ++ rest ≠ '"' :: rest' := by
  rcases quotedChar_cases c with ⟨letter, -, hwritten⟩ | hwritten | ⟨hquote, -, hwritten⟩
  · simp [hwritten]
  · simp [hwritten, codePointEscape]
  · simp [hwritten, hquote]

/-! ## Texts -/

lemma flatMap_quotedChar_append_inj {text text' rest rest' : List Char}
    (h : text.flatMap quotedChar ++ '"' :: rest = text'.flatMap quotedChar ++ '"' :: rest') :
    text = text' ∧ rest = rest' := by
  induction text generalizing text' with
  | nil =>
    cases text' with
    | nil => exact ⟨rfl, (List.cons.inj h).2⟩
    | cons d text' =>
      rw [List.flatMap_cons, List.append_assoc] at h
      exact absurd h.symm (quotedChar_append_ne d _ _)
  | cons c text ih =>
    rw [List.flatMap_cons, List.append_assoc] at h
    cases text' with
    | nil => exact absurd h (quotedChar_append_ne c _ _)
    | cons d text' =>
      rw [List.flatMap_cons, List.append_assoc] at h
      obtain ⟨rfl, htail⟩ := quotedChar_append_inj h
      obtain ⟨rfl, rfl⟩ := ih htail
      exact ⟨rfl, rfl⟩

/-- A quoted text tells the text and where it ends. -/
theorem quoted_append_inj {text text' : String} {rest rest' : List Char}
    (h : (quoted text).toList ++ rest = (quoted text').toList ++ rest') :
    text = text' ∧ rest = rest' := by
  simp only [quoted, String.toList_ofList, List.cons_append, List.append_assoc, List.cons.injEq,
    true_and, List.nil_append] at h
  obtain ⟨htext, hrest⟩ := flatMap_quotedChar_append_inj h
  exact ⟨String.toList_inj.1 htext, hrest⟩

end BuildTriage.Text
