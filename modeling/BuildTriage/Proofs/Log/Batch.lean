import BuildTriage.Proofs.Log.Registry

/-!
# Registering several texts

Texts that are registered together are registered one after the other, each against the set that
those before it have left. A text fails if it is malformed, or if its id is taken, be it by a pattern
of the set or by an earlier text. So the first text that fails can be told in advance
(`PatternSet.FailsAt`); the texts before it are registered and stay so, its failure is returned, and
the texts behind it count for nothing (`insertSeveral_up_to_first_failure`).
-/

namespace BuildTriage

/-! ## Why a registration fails -/

/-- Whether the text is no pattern of the kind. Every text is a literal. -/
def PatternKind.Malformed : PatternKind → String → Prop
  | .literal, _ => False
  | .regex, source => ∃ e, Pattern.ofRegex source = .error e

lemma PatternKind.malformed_iff (kind : PatternKind) (text : String) :
    kind.Malformed text ↔ (kind.registration text).pattern? = none := by
  cases kind with
  | literal =>
    rw [Malformed, false_iff]
    exact Option.some_ne_none _
  | regex =>
    rw [Malformed, registration, Registration.pattern?]
    cases Pattern.ofRegex text with
    | error e => exact iff_of_true ⟨e, rfl⟩ rfl
    | ok p =>
      refine iff_of_false ?_ (Option.some_ne_none p)
      rintro ⟨e, he⟩
      cases he

lemma PatternKind.failure_of_malformed (kind : PatternKind) {text : String}
    (h : kind.Malformed text) : (kind.registration text).failure = .invalidRegex text := by
  rw [Registration.failure, if_pos ((kind.malformed_iff text).1 h), kind.text_registration]

lemma PatternKind.failure_of_not_malformed (kind : PatternKind) {text : String}
    (h : ¬kind.Malformed text) : (kind.registration text).failure = .duplicate text := by
  rw [Registration.failure, if_neg fun hnone => h ((kind.malformed_iff text).2 hnone),
    kind.text_registration]

namespace PatternSet

variable {s t : PatternSet}

/-! ## The first text that fails -/

/-- Where all before it are registered, the text at the index cannot be: it is malformed, or its id
is that of a pattern of the set or of an earlier text. -/
def FailsAt (s : PatternSet) (kind : PatternKind) (texts : List String) (k : Nat) : Prop :=
  ∃ text, texts[k]? = some text ∧ (kind.Malformed text ∨ text ∈ s.ids ∨ text ∈ texts.take k)

/-- The set `t` has the patterns of `s`, and behind them those of the texts, in order. -/
structure FollowedBy (s : PatternSet) (kind : PatternKind) (texts : List String)
    (t : PatternSet) : Prop where
  patterns_eq :
    t.patterns = s.patterns ++ (texts.map kind.registration).filterMap Registration.pattern?
  /-- No text is left out. -/
  ids_eq : t.ids = s.ids ++ texts
  /-- The index has the new patterns as well. -/
  consistent : t.Consistent

variable {kind : PatternKind} {texts front rest : List String} {k : Nat}

/-- What fails among the first texts fails among all of them. -/
lemma failsAt_take {j : Nat} (h : s.FailsAt kind (texts.take k) j) :
    j < k ∧ s.FailsAt kind texts j := by
  obtain ⟨text, htext, hfails⟩ := h
  rw [List.getElem?_take] at htext
  split at htext
  · next hj =>
    rw [List.take_take, Nat.min_eq_left (Nat.le_of_lt hj)] at hfails
    exact ⟨hj, text, htext, hfails⟩
  · cases htext

lemma isSome_pattern?_of_not_failsAt (h : ∀ j, ¬s.FailsAt kind texts j) :
    ∀ text ∈ texts, (kind.registration text).pattern?.isSome = true := by
  intro text htext
  obtain ⟨j, hj⟩ := List.mem_iff_getElem?.1 htext
  rw [Option.isSome_iff_ne_none, ne_eq, ← kind.malformed_iff]
  exact fun hmalformed => h j ⟨text, hj, .inl hmalformed⟩

/-- Where no text fails, the ids of the set and the texts are all distinct. -/
lemma Consistent.nodup_of_not_failsAt (hs : s.Consistent) (h : ∀ j, ¬s.FailsAt kind texts j) :
    (s.ids ++ texts).Nodup := by
  refine List.nodup_append.2 ⟨hs.nodup, ?_, ?_⟩
  · refine List.pairwise_iff_getElem.2 fun i j hi hj hij heq => ?_
    have hearlier : texts[j] ∈ texts.take j :=
      List.mem_take_iff_getElem.2 ⟨i, lt_min hij hi, heq⟩
    exact h j ⟨_, List.getElem?_eq_getElem hj, .inr (.inr hearlier)⟩
  · rintro id hid text htext rfl
    obtain ⟨j, hj⟩ := List.mem_iff_getElem?.1 htext
    exact h j ⟨_, hj, .inr (.inl hid)⟩

/-- Texts none of which fails are all registered. -/
lemma Consistent.insertSeveral_of_not_failsAt (hs : s.Consistent)
    (h : ∀ j, ¬s.FailsAt kind texts j) :
    ∃ t, s.insertSeveral kind texts = (t, none) ∧ s.FollowedBy kind texts t := by
  obtain ⟨hinsert, hids, hpatterns⟩ := hs.insertAll_of_fresh kind.registration
    kind.text_registration (isSome_pattern?_of_not_failsAt h) (hs.nodup_of_not_failsAt h)
  rw [insertSeveral_eq]
  exact ⟨_, hinsert, hpatterns, hids, hs.foldl_registered _⟩

lemma insertSeveral_append (h : s.insertSeveral kind front = (t, none)) (rest : List String) :
    s.insertSeveral kind (front ++ rest) = t.insertSeveral kind rest := by
  rw [insertSeveral_eq] at h ⊢
  rw [insertSeveral_eq]
  induction front generalizing s with
  | nil =>
    cases h
    rfl
  | cons text front ih =>
    rw [List.cons_append]
    rw [insertAll] at h ⊢
    cases hregister : s.register (kind.registration text) with
    | error e => rw [hregister] at h; cases h
    | ok u =>
      rw [hregister] at h
      exact ih h

/-- A text that fails ends the registration, whatever stands behind it. -/
lemma Consistent.insertSeveral_cons_of_fails (ht : t.Consistent) {text : String}
    (hfails : (kind.registration text).Fails t.ids) (rest : List String) :
    t.insertSeveral kind (text :: rest) = (t, some (kind.registration text).failure) := by
  rw [insertSeveral_eq, insertAll, ht.register_of_fails hfails]

/-- The texts before the first that fails are registered, and its failure is returned, whatever
stands behind it. -/
lemma Consistent.insertSeveral_of_first_failure (hs : s.Consistent) {text : String}
    (hk : texts[k]? = some text) (hfails : s.FailsAt kind texts k)
    (hfirst : ∀ j < k, ¬s.FailsAt kind texts j) :
    ∃ t, s.FollowedBy kind (texts.take k) t ∧
      ∀ rest, s.insertSeveral kind (texts.take k ++ text :: rest)
        = (t, some (kind.registration text).failure) := by
  have hfront : ∀ j, ¬s.FailsAt kind (texts.take k) j := by
    intro j hj
    obtain ⟨hjk, hj⟩ := failsAt_take hj
    exact hfirst j hjk hj
  obtain ⟨t, ht, hfollowed⟩ := hs.insertSeveral_of_not_failsAt hfront
  have hrefused : (kind.registration text).Fails t.ids := by
    obtain ⟨other, hother, hreason⟩ := hfails
    obtain rfl := Option.some.inj (hk.symm.trans hother)
    rw [kind.malformed_iff, ← List.mem_append, ← hfollowed.ids_eq] at hreason
    rwa [Registration.Fails, kind.text_registration]
  refine ⟨t, hfollowed, fun rest => ?_⟩
  rw [insertSeveral_append ht, hfollowed.consistent.insertSeveral_cons_of_fails hrefused]

/-- **Several texts are registered up to the first that fails.** Let a set have come out of any
calls. If none of some texts fails, all are registered behind its patterns and no failure is
returned. Otherwise let the text at `k` be the first that fails. Then the texts before it are
registered, and no others; the failure of this text is returned, which is that it is malformed if it
is, and that it is a duplicate if it is not; and what stands behind it changes nothing. A single text
fails exactly if it is malformed or its id is taken, with the same failure, and the set is left as it
was. -/
theorem insertSeveral_up_to_first_failure (calls : List RegistryCall) (kind : PatternKind)
    (texts : List String) :
    let s := ofCalls calls
    ((∀ k, ¬s.FailsAt kind texts k) →
        ∃ t, s.insertSeveral kind texts = (t, none) ∧ s.FollowedBy kind texts t) ∧
      (∀ k text, texts[k]? = some text → s.FailsAt kind texts k →
        (∀ j < k, ¬s.FailsAt kind texts j) →
          ∃ t e, s.FollowedBy kind (texts.take k) t ∧
            (kind.Malformed text → e = .invalidRegex text) ∧
            (¬kind.Malformed text → e = .duplicate text) ∧
            s.insertSeveral kind texts = (t, some e) ∧
            ∀ rest, s.insertSeveral kind (texts.take (k + 1) ++ rest) = (t, some e)) ∧
      ∀ r, (r.Fails s.ids ↔ ∃ e, s.register r = .error e) ∧
        ∀ e, s.register r = .error e → e = r.failure ∧ s.call (.one r) = (s, some e) := by
  intro s
  have hs : s.Consistent := ofCalls_consistent calls
  refine ⟨hs.insertSeveral_of_not_failsAt, ?_, fun r => ⟨?_, ?_⟩⟩
  · intro k text hk hfails hfirst
    obtain ⟨t, hfollowed, hstop⟩ := hs.insertSeveral_of_first_failure hk hfails hfirst
    have hsplit (rest : List String) :
        texts.take (k + 1) ++ rest = texts.take k ++ text :: rest := by
      rw [List.take_add_one, hk, Option.toList_some, List.append_assoc, List.singleton_append]
    have hrest (rest : List String) : s.insertSeveral kind (texts.take (k + 1) ++ rest)
        = (t, some (kind.registration text).failure) := by
      rw [hsplit, hstop]
    refine ⟨t, _, hfollowed, kind.failure_of_malformed, kind.failure_of_not_malformed, ?_, hrest⟩
    rw [← hrest (texts.drop (k + 1)), List.take_append_drop]
  · constructor
    · exact fun hfails => ⟨_, hs.register_of_fails hfails⟩
    · rintro ⟨e, he⟩
      exact ((hs.register_eq_error_iff r e).1 he).1
  · intro e he
    refine ⟨((hs.register_eq_error_iff r e).1 he).2, ?_⟩
    rw [call, he]

/-- Of three expressions the second one is known as a literal, and the third is malformed, which is
not asked any more. -/
theorem insertSeveral_up_to_first_failure_at_taken_id :
    let s := ofCalls [.one (.literal "a")]
    let sources := ["b+", "a", "("]
    s.FailsAt .regex sources 1 ∧ (∀ j < 1, ¬s.FailsAt .regex sources j) ∧
      ∃ t, s.insertSeveral .regex sources = (t, some (.duplicate "a")) ∧ t.ids = ["a", "b+"] := by
  intro s sources
  have hids : s.ids = ["a"] := by
    simp [s, ofCalls, call, register, insertLiteral, insert, empty, ids, Pattern.id]
  have hwell (source : String) (h : (Pattern.ofRegex source).toOption.isSome = true) :
      ¬PatternKind.regex.Malformed source := by
    rintro ⟨e, he⟩
    rw [he] at h
    cases h
  have hfails : s.FailsAt .regex sources 1 := by
    refine ⟨"a", rfl, .inr (.inl ?_)⟩
    rw [hids]
    exact List.mem_singleton_self _
  have hfirst : ∀ j < 1, ¬s.FailsAt .regex sources j := by
    rintro j hj ⟨source, hsource, hreason⟩
    obtain rfl := Nat.lt_one_iff.1 hj
    cases hsource
    rcases hreason with hmalformed | htaken | hearlier
    · exact hwell "b+" rfl hmalformed
    · rw [hids] at htaken
      exact absurd htaken (by decide)
    · cases hearlier
  obtain ⟨-, hstop, -⟩ := insertSeveral_up_to_first_failure [.one (.literal "a")] .regex sources
  obtain ⟨t, e, hfollowed, -, hduplicate, hinsert, -⟩ := hstop 1 "a" rfl hfails hfirst
  refine ⟨hfails, hfirst, t, ?_, ?_⟩
  · rw [← hduplicate (hwell "a" rfl)]
    exact hinsert
  · rw [hfollowed.ids_eq]
    exact congrArg (· ++ ["b+"]) hids

end PatternSet

end BuildTriage
