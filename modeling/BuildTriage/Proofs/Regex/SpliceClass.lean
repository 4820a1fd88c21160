import BuildTriage.Proofs.Regex.Splice

/-!
# Reading a class in brackets inside a longer pattern

A class ends within the pattern, so that what follows the pattern does not change it. Where a reader
looks ahead it sees the same, or it sees blanks and a comment only, and then the class is not
closed.
-/

namespace BuildTriage.Regex

variable {engine : Engine} {text text' : List Char}

/-! ## The opening of a class -/

namespace openClass

lemma readCaret_carries (flags : Flags) (h : Within text text') :
    Carries (SameThen Within) (readCaret flags text) (readCaret flags text') := by
  obtain ⟨hne, rfl⟩ := h
  fun_cases readCaret flags text with
  | case1 rest =>
    exact (nonEmpty_carries (flags.skip_append rest)).map fun _ _ h => ⟨rfl, h⟩
  | case2 _ hother =>
    rw [readCaret.eq_2]
    · exact .some ⟨rfl, hne, rfl⟩
    · intro rest heq
      obtain ⟨rest, rfl⟩ := exists_of_append_eq_cons (by decide) heq
      exact hother rest rfl

lemma readHyphens_carries (flags : Flags) {fuel fuel' : Nat} (hfuel : fuel ≤ fuel')
    (hlen : text.length < fuel) (members : Members) (h : Within text text') :
    Carries (SameThen Within) (readHyphens flags fuel members text)
      (readHyphens flags fuel' members text') := by
  induction fuel generalizing fuel' members text text' with
  | zero => cases hlen
  | succ fuel ih =>
    obtain ⟨fuel', rfl⟩ := Nat.exists_eq_add_of_le' (Nat.zero_lt_of_lt hfuel)
    obtain ⟨hne, rfl⟩ := h
    obtain ⟨c, rest, rfl⟩ := List.exists_cons_of_ne_nil hne
    by_cases hc : c = '-'
    · subst hc
      have hskip := flags.skip_append rest
      have hshort := flags.length_skip_le rest
      rw [List.cons_append, readHyphens, readHyphens]
      rcases htext : flags.skip rest with _ | ⟨d, more⟩
      · exact .none _
      · rw [htext] at hskip hshort
        rw [hskip.cons]
        simp only [List.length_cons] at hlen hshort
        exact ih (Nat.le_of_succ_le_succ hfuel) (by simp only [List.length_cons]; omega) _
          (within_cons d more)
    · have hother : ∀ fuel rest, readHyphens flags (fuel + 1) members (c :: rest)
          = some (members, c :: rest) := by
        intro fuel rest
        rw [readHyphens.eq_2]
        rintro _ _ - ⟨⟩
        exact hc rfl
      rw [List.cons_append, hother, hother]
      exact .some ⟨rfl, within_cons c rest⟩

lemma readBracket_carries (flags : Flags) (members : Members) (h : Within text text') :
    Carries (SameThen Within) (readBracket flags members text)
      (readBracket flags members text') := by
  obtain ⟨hne, rfl⟩ := h
  fun_cases readBracket flags members text with
  | case1 rest hcount =>
    rw [List.cons_append, readBracket, if_pos hcount]
    exact (nonEmpty_carries (flags.skip_append rest)).map fun _ _ h => ⟨rfl, h⟩
  | case2 rest hcount =>
    rw [List.cons_append, readBracket, if_neg hcount]
    exact .some ⟨rfl, within_cons _ rest⟩
  | case3 _ hother =>
    rw [readBracket.eq_2]
    · exact .some ⟨rfl, hne, rfl⟩
    · intro rest heq
      obtain ⟨rest, rfl⟩ := exists_of_append_eq_cons (by decide) heq
      exact hother rest rfl

end openClass

lemma openClass_carries (flags : Flags) (text : List Char) :
    Carries (SameThen (SameThen Extends)) (openClass flags text)
      (openClass flags (text ++ lineEnding)) := by
  refine (nonEmpty_carries (flags.skip_append text)).bind fun text text' htext => ?_
  refine (openClass.readCaret_carries flags htext).bind ?_
  rintro ⟨negated, text⟩ ⟨_, text'⟩ ⟨rfl, hne, rfl⟩
  refine (openClass.readHyphens_carries flags (by simp) (Nat.lt_succ_self _) {} ⟨hne, rfl⟩).bind ?_
  rintro ⟨members, text⟩ ⟨_, text'⟩ ⟨rfl, htext⟩
  refine (openClass.readBracket_carries flags members htext).bind ?_
  rintro ⟨members, text⟩ ⟨_, text'⟩ ⟨rfl, htext⟩
  exact .some ⟨rfl, rfl, .inl htext.2⟩

/-! ## Names of classes -/

/-- A name in brackets and colons is complete within the text or not at all. -/
lemma readAsciiClass_named_append (negated : Bool) (text : List Char) :
    readAsciiClass.named negated (text ++ lineEnding)
      = (readAsciiClass.named negated text).map fun found =>
          (found.1, found.2.1, found.2.2 ++ lineEnding) := by
  have hdropAppend : (text ++ lineEnding).dropWhile (· != ':')
      = if (text.dropWhile (· != ':')).isEmpty then lineEnding.dropWhile (· != ':')
        else text.dropWhile (· != ':') ++ lineEnding := List.dropWhile_append
  fun_cases readAsciiClass.named negated text with
  | case1 rest hdrop =>
    have hprefix : (text.takeWhile (· != ':')).length ≠ text.length := by
      have hlen : (text.takeWhile (· != ':') ++ text.dropWhile (· != ':')).length = text.length :=
        congrArg List.length List.takeWhile_append_dropWhile
      rw [hdrop, List.length_append, List.length_cons] at hlen
      omega
    rw [hdrop] at hdropAppend
    rw [readAsciiClass.named, hdropAppend, List.takeWhile_append, if_neg hprefix]
    change (asciiClass? _ >>= fun set => some (negated, set, rest ++ lineEnding)) = _
    rcases asciiClass? _ with _ | set <;> rfl
  | case2 hother =>
    unfold readAsciiClass.named
    split
    · next rest hdrop =>
      rw [hdropAppend] at hdrop
      split at hdrop
      · cases hdrop
      · obtain ⟨more, hmore⟩ := exists_of_append_eq_cons (by decide) hdrop
        rw [hmore] at hdrop
        obtain ⟨last, rfl⟩ := exists_of_append_eq_cons (by decide) (List.cons.inj hdrop).2
        exact absurd hmore (hother last)
    · rfl

lemma readAsciiClass_append (text : List Char) :
    readAsciiClass (text ++ lineEnding)
      = (readAsciiClass text).map fun found =>
          (found.1, found.2.1, found.2.2 ++ lineEnding) := by
  fun_cases readAsciiClass text with
  | case1 rest => exact readAsciiClass_named_append true rest
  | case2 rest hother =>
    rw [List.cons_append, readAsciiClass.eq_2]
    · exact readAsciiClass_named_append false rest
    · intro rest heq
      obtain ⟨rest, rfl⟩ := exists_of_append_eq_cons (by decide) heq
      exact hother rest rfl
  | case3 _ hcaret hcolon =>
    rw [readAsciiClass.eq_3]
    · rfl
    · intro rest heq
      obtain ⟨rest, rfl⟩ := exists_of_append_eq_cons (by decide) heq
      exact hcolon rest rfl
    · intro rest heq
      obtain ⟨rest, rfl⟩ := exists_of_append_eq_cons (by decide) heq
      exact hcolon rest rfl

/-! ## Members and ranges -/

lemma readMember_carries (flags : Flags) (h : Extends text text') :
    Carries (SameThen Extends) (readMember flags text) (readMember flags text') := by
  fun_cases readMember flags text with
  | case1 => exact .none _
  | case2 =>
    rw [h.cons]
    exact readEscape_carries flags (extends_append _)
  | case3 c _ hc =>
    rw [h.cons, readMember.eq_3 flags c _ hc]
    exact .some ⟨rfl, extends_append _⟩

namespace peekPast

lemma look_append {inComment : Bool} {c : Char} (h : look inComment text = some c) :
    look inComment (text ++ lineEnding) = some c := by
  induction text generalizing inComment with
  | nil => cases h
  | cons d text ih =>
    rw [List.cons_append, look]
    rw [look] at h
    split
    · next hblank => exact ih (by rwa [if_pos hblank] at h)
    · next hblank =>
      rw [if_neg hblank] at h
      split
      · next hsign => exact ih (by rwa [if_pos hsign] at h)
      · next hsign => rwa [if_neg hsign] at h

/-- Where nothing is seen there are blanks and comments alone. -/
lemma skipBlanks_of_look {inComment : Bool} (h : look inComment text = none) {skipped : Bool}
    (hskipped : inComment = false → skipped = false) : Flags.skipBlanks skipped text = [] := by
  induction text generalizing inComment skipped with
  | nil => rfl
  | cons c text ih =>
    rw [look] at h
    split at h
    · next hblank =>
      rw [Flags.skipBlanks, if_pos hblank]
      split
      · next hin => exact ih h fun hout => by simp [hskipped hout] at hin
      · exact ih h fun _ => rfl
    · next hblank =>
      split at h
      · next hsign =>
        simp only [Bool.and_eq_true, Bool.not_eq_true'] at hsign
        rw [Flags.skipBlanks, hskipped hsign.1, if_neg Bool.false_ne_true, if_neg hblank,
          if_pos hsign.2]
        exact ih h Bool.noConfusion
      · cases h

/-- Where nothing is seen no member of a class stands. -/
lemma head?_ne_of_look (c : Char) (hblank : Text.isWhiteSpace c = false) (hsign : c ≠ '#')
    (h : look false text = none) : text.head? ≠ some c := by
  rintro hhead
  obtain ⟨rest, rfl⟩ := List.head?_eq_some_iff.1 hhead
  simp [look, hblank, hsign] at h

end peekPast

/-- What is seen past a hyphen is the same in a longer text, unless blanks alone follow it, and then
it is not a sign of its own. -/
lemma peekPast_append (flags : Flags) (rest : List Char) :
    peekPast flags ('-' :: (rest ++ lineEnding)) = peekPast flags ('-' :: rest)
      ∨ flags.skip rest = [] ∧ peekPast flags ('-' :: rest) ≠ some ']'
        ∧ peekPast flags ('-' :: rest) ≠ some '-' := by
  unfold peekPast Flags.skip
  cases flags.ignoreSpace with
  | false =>
    cases rest with
    | nil => exact .inr ⟨rfl, nofun, nofun⟩
    | cons c rest => exact .inl rfl
  | true =>
    cases hlook : peekPast.look false rest with
    | some c =>
      refine .inl ?_
      simp [peekPast.look_append hlook, hlook]
    | none =>
      simp only [Bool.not_true, Bool.false_eq_true, if_false, if_true, hlook, Option.none_or]
      refine .inr ⟨peekPast.skipBlanks_of_look hlook fun h => h, ?_, ?_⟩
      · exact peekPast.head?_ne_of_look ']' (by decide) (by decide) hlook
      · exact peekPast.head?_ne_of_look '-' (by decide) (by decide) hlook

lemma readRange_readFrom_carries (flags : Flags) (first : Atom) (h : Extends text text') :
    Carries (SameThen Extends) (readRange.readFrom engine flags first text)
      (readRange.readFrom engine flags first text') := by
  fun_cases readRange.readFrom engine flags first text with
  | case1 => exact .none _
  | case2 rest next hnext =>
    rw [h.cons, readRange.readFrom]
    rcases peekPast_append flags rest with hsame | ⟨-, hbracket, hhyphen⟩
    · rw [hsame, if_pos hnext]
      exact .bind_same _ fun set => .some ⟨rfl, extends_append ('-' :: rest)⟩
    · exact absurd hnext (not_or_intro hbracket hhyphen)
  | case3 rest next hnext =>
    rw [h.cons, readRange.readFrom]
    rcases peekPast_append flags rest with hsame | ⟨hnil, -⟩
    · rw [hsame, if_neg hnext]
      refine (readMember_carries flags (flags.skip_append rest)).bind ?_
      rintro ⟨last, rest⟩ ⟨_, rest'⟩ ⟨rfl, hrest⟩
      refine .bind_same _ fun lo => .bind_same _ fun hi => ?_
      split
      · exact .some ⟨rfl, hrest⟩
      · exact .none _
    · rw [hnil]
      exact .none _
  | case4 _ hnil hhyphen =>
    obtain ⟨c, rest, rfl⟩ := List.exists_cons_of_ne_nil hnil
    rw [h.cons, readRange.readFrom.eq_3]
    · exact .bind_same _ fun set => .some ⟨rfl, extends_append (c :: rest)⟩
    · exact List.cons_ne_nil c _
    · rintro _ ⟨⟩
      exact hhyphen rest rfl

lemma readRange_carries (flags : Flags) (h : Extends text text') :
    Carries (SameThen Extends) (readRange engine flags text) (readRange engine flags text') := by
  refine (readMember_carries flags h).bind ?_
  rintro ⟨first, text⟩ ⟨_, text'⟩ ⟨rfl, htext⟩
  exact readRange_readFrom_carries flags first (flags.skip_extends htext)

/-! ## The rest of a class -/

lemma readClassFrom_carries (flags : Flags) {fuel fuel' : Nat} (hfuel : fuel ≤ fuel')
    (stack : List BracketFrame) (members : Members) (h : Extends text text') :
    Carries (SameThen Extends) (readClassFrom engine flags fuel stack members text)
      (readClassFrom engine flags fuel' stack members text') := by
  induction fuel generalizing fuel' stack members text text' with
  | zero => exact .none _
  | succ fuel ih =>
    obtain ⟨fuel', rfl⟩ := Nat.exists_eq_add_of_le' (Nat.zero_lt_of_lt hfuel)
    replace hfuel := Nat.le_of_succ_le_succ hfuel
    have hskip := flags.skip_extends h
    unfold readClassFrom
    dsimp only
    split
    · exact .none _
    · next heq =>
      rw [Flags.skip_eq_cons h heq]
      exact ih hfuel _ _ (extends_append _)
    · next heq =>
      rw [Flags.skip_eq_cons h heq]
      exact ih hfuel _ _ (extends_append _)
    · next heq =>
      rw [Flags.skip_eq_cons h heq]
      exact ih hfuel _ _ (extends_append _)
    · next rest heq =>
      rw [Flags.skip_eq_cons h heq]
      have hname := readAsciiClass_append rest
      cases hread : readAsciiClass rest with
      | some found =>
        rw [hread] at hname
        simp only [hname, Option.map_some]
        exact .bind_same _ fun set => ih hfuel _ _ (extends_append _)
      | none =>
        rw [hread] at hname
        simp only [hname, Option.map_none]
        refine (openClass_carries flags rest).bind ?_
        rintro ⟨negated, inner, rest⟩ ⟨_, _, rest'⟩ ⟨rfl, rfl, hrest⟩
        exact ih hfuel _ _ hrest
    · next rest heq =>
      rw [Flags.skip_eq_cons h heq]
      cases closeOperator flags members.close stack with
      | mk whole stack =>
        simp only
        split
        · refine .bind_same _ fun set => ?_
          split
          · exact .some ⟨rfl, extends_append rest⟩
          · exact ih hfuel _ _ (extends_append rest)
        · exact .none _
    · next hnil hinter hdiff hsymm hopen hclose =>
      rw [hskip.of_ne_nil hnil]
      -- The ending begins none of the signs that are looked for, so they were not there before.
      have hpair : ∀ {c rest}, c ≠ ')' → flags.skip text ++ lineEnding = c :: c :: rest →
          ∃ rest, flags.skip text = c :: c :: rest := fun hc => exists_of_append_eq_cons_cons hc hc
      split
      · next heq => exact absurd (List.append_eq_nil_iff.1 heq).1 hnil
      · next heq => exact (hpair (by decide) heq).elim fun rest h => (hinter rest h).elim
      · next heq => exact (hpair (by decide) heq).elim fun rest h => (hdiff rest h).elim
      · next heq => exact (hpair (by decide) heq).elim fun rest h => (hsymm rest h).elim
      · next heq =>
        exact (exists_of_append_eq_cons (by decide) heq).elim fun rest h => (hopen rest h).elim
      · next heq =>
        exact (exists_of_append_eq_cons (by decide) heq).elim fun rest h => (hclose rest h).elim
      · refine (readRange_carries flags (extends_append _)).bind ?_
        rintro ⟨set, rest⟩ ⟨_, rest'⟩ ⟨rfl, hrest⟩
        exact ih hfuel _ _ hrest

lemma readClass_carries (flags : Flags) (text : List Char) :
    Carries (SameThen Extends) (readClass engine flags text)
      (readClass engine flags (text ++ lineEnding)) := by
  refine (openClass_carries flags text).bind ?_
  rintro ⟨negated, members, rest⟩ ⟨_, _, rest'⟩ ⟨rfl, rfl, hrest⟩
  exact readClassFrom_carries flags (Nat.succ_le_succ hrest.length_le) _ _ hrest

end BuildTriage.Regex
