import BuildTriage.Proofs.Text.Quoting
import BuildTriage.Proofs.Triage.Evidence

/-!
# What a printed predicate means

The text of a predicate is all that a reader of the rules gets to see, and it says what the
predicate means: two predicates with the same text hold for the same logs, whatever their signatures
have in them (`holds_eq_of_describe_eq`). The predicates themselves need not be the same. A list of
one part is printed without a joint, so its text does not tell "and" from "or", and neither does its
meaning. A list of no parts is printed the same way and has two meanings, so lists of parts have to
be `filled`, as they are in the table.

In the proof a text stands in front of an arbitrary rest, and determines both the meaning of the
predicate and the rest: `Predicate.Readable`, shown for one constructor after the other. Two lists
of parts are followed joint by joint, `Predicate.joinedAfter_append_inj`.
-/

namespace BuildTriage

namespace Predicate

mutual

/-- Whether no list of parts in the predicate is empty. -/
def filled : Predicate → Bool
  | .build _ | .alignment _ | .alignmentEmpty => true
  | .all parts | .any parts => !parts.isEmpty && allFilled parts

/-- Whether no list of parts in the predicates is empty. -/
def allFilled : List Predicate → Bool
  | [] => true
  | p :: rest => p.filled && allFilled rest

end

lemma allFilled_iff (parts : List Predicate) :
    allFilled parts = true ↔ ∀ p ∈ parts, p.filled = true := by
  induction parts with
  | nil => simp [allFilled]
  | cons p rest ih => rw [allFilled, Bool.and_eq_true, ih, List.forall_mem_cons]

/-- A list of parts that is filled has a first one. -/
lemma exists_cons_of_filled {parts : List Predicate}
    (h : (!parts.isEmpty && allFilled parts) = true) :
    ∃ p rest, parts = p :: rest ∧ p.filled = true ∧ ∀ q ∈ rest, q.filled = true := by
  cases parts with
  | nil => cases h
  | cons p rest =>
    have hfilled := (allFilled_iff (p :: rest)).1 (Bool.and_eq_true_iff.1 h).2
    exact ⟨p, rest, rfl, List.forall_mem_cons.1 hfilled⟩

/-- The predicates hold for the same logs. -/
def SameMeaning (p q : Predicate) : Prop :=
  ∀ build alignment, p.holds build alignment = q.holds build alignment

/-- The text of the predicate, whatever follows, is no text of a predicate with another meaning. -/
def Readable (p : Predicate) : Prop :=
  ∀ (q : Predicate) (rest rest' : List Char), q.filled = true →
    p.text ++ rest = q.text ++ rest' → p.SameMeaning q ∧ rest = rest'

/-! ## Lists of parts -/

lemma allHold_congr {parts others : List Predicate} (h : parts.Forall₂ SameMeaning others)
    (build alignment : ScanResult) :
    allHold build alignment parts = allHold build alignment others := by
  induction h with
  | nil => rfl
  | cons hp _ ih => rw [allHold, allHold, hp build alignment, ih]

lemma anyHolds_congr {parts others : List Predicate} (h : parts.Forall₂ SameMeaning others)
    (build alignment : ScanResult) :
    anyHolds build alignment parts = anyHolds build alignment others := by
  induction h with
  | nil => rfl
  | cons hp _ ih => rw [anyHolds, anyHolds, hp build alignment, ih]

/-- What stands between two parts. -/
def joints : List (List Char) :=
  [" && ".toList, " || ".toList]

lemma joint_append_inj {joint joint' : List Char} (h : joint ∈ joints) (h' : joint' ∈ joints)
    {rest rest' : List Char} (heq : joint ++ rest = joint' ++ rest') :
    joint = joint' ∧ rest = rest' := by
  have hlength : ∀ j ∈ joints, j.length = 4 := by decide
  exact List.append_inj heq ((hlength joint h).trans (hlength joint' h').symm)

lemma joint_append_ne {joint : List Char} (h : joint ∈ joints) (rest rest' : List Char) :
    joint ++ rest ≠ ')' :: rest' := by
  simp only [joints, List.mem_cons, List.not_mem_nil, or_false] at h
  rcases h with rfl | rfl <;> simp

/-- The parts after the first one, up to the bracket that closes the list. If there are any, the
joint is told as well. -/
lemma joinedAfter_append_inj {joint joint' : List Char} (hjoint : joint ∈ joints)
    (hjoint' : joint' ∈ joints) {parts others : List Predicate} (hparts : ∀ p ∈ parts, p.Readable)
    (hothers : ∀ q ∈ others, q.filled = true) {rest rest' : List Char}
    (h : joinedAfter joint parts ++ ')' :: rest = joinedAfter joint' others ++ ')' :: rest') :
    parts.Forall₂ SameMeaning others ∧ (joint = joint' ∨ parts = []) ∧ rest = rest' := by
  induction parts generalizing others with
  | nil =>
    cases others with
    | nil => exact ⟨.nil, .inr rfl, (List.cons.inj h).2⟩
    | cons q others =>
      simp only [joinedAfter, List.append_assoc] at h
      exact absurd h.symm (joint_append_ne hjoint' _ _)
  | cons p parts ih =>
    simp only [joinedAfter, List.append_assoc] at h
    cases others with
    | nil => exact absurd h (joint_append_ne hjoint _ _)
    | cons q others =>
      simp only [joinedAfter, List.append_assoc] at h
      obtain ⟨hsame, hafter⟩ := joint_append_inj hjoint hjoint' h
      obtain ⟨hp, htail⟩ := hparts p List.mem_cons_self q _ _ (hothers q List.mem_cons_self) hafter
      obtain ⟨hall, -, hrest⟩ := ih (fun p hp => hparts p (List.mem_cons_of_mem _ hp))
        (fun q hq => hothers q (List.mem_cons_of_mem _ hq)) htail
      exact ⟨.cons hp hall, .inl hsame, hrest⟩

/-- The parts of a list that is filled, up to the bracket that closes it. -/
lemma joined_append_inj {joint joint' : List Char} (hjoint : joint ∈ joints)
    (hjoint' : joint' ∈ joints) {parts others : List Predicate}
    (hfilled : (!parts.isEmpty && allFilled parts) = true)
    (hfilled' : (!others.isEmpty && allFilled others) = true)
    (hparts : ∀ p ∈ parts, p.filled = true → p.Readable) {rest rest' : List Char}
    (h : joined joint parts ++ ')' :: rest = joined joint' others ++ ')' :: rest') :
    parts.Forall₂ SameMeaning others ∧ (joint = joint' ∨ parts.length = 1) ∧ rest = rest' := by
  obtain ⟨p, parts, rfl, hp, hrest⟩ := exists_cons_of_filled hfilled
  obtain ⟨q, others, rfl, hq, hrest'⟩ := exists_cons_of_filled hfilled'
  rw [List.forall_mem_cons] at hparts
  simp only [joined, List.append_assoc] at h
  obtain ⟨hfirst, htail⟩ := hparts.1 hp q _ _ hq h
  obtain ⟨hall, hjoints, hend⟩ := joinedAfter_append_inj hjoint hjoint'
    (fun p hp => hparts.2 p hp (hrest p hp)) hrest' htail
  exact ⟨.cons hfirst hall, hjoints.imp_right (by rintro rfl; rfl), hend⟩

/-! ## Whole predicates -/

section Text

variable (signature : String) (parts : List Predicate) (rest : List Char)

@[simp] lemma text_build_append :
    (build signature).text ++ rest
      = "build[".toList ++ ((Text.quoted signature).toList ++ ']' :: rest) := by
  show ("build[".toList ++ (Text.quoted signature).toList ++ [']']) ++ rest = _
  rw [List.append_assoc, List.append_assoc, List.singleton_append]

@[simp] lemma text_alignment_append :
    (alignment signature).text ++ rest
      = "alignment[".toList ++ ((Text.quoted signature).toList ++ ']' :: rest) := by
  show ("alignment[".toList ++ (Text.quoted signature).toList ++ [']']) ++ rest = _
  rw [List.append_assoc, List.append_assoc, List.singleton_append]

@[simp] lemma text_alignmentEmpty : alignmentEmpty.text = "alignment.empty".toList := rfl

@[simp] lemma text_all_append :
    (all parts).text ++ rest = '(' :: (joined " && ".toList parts ++ ')' :: rest) := by
  show ('(' :: (joined " && ".toList parts ++ [')'])) ++ rest = _
  rw [List.cons_append, List.append_assoc, List.singleton_append]

@[simp] lemma text_any_append :
    (any parts).text ++ rest = '(' :: (joined " || ".toList parts ++ ')' :: rest) := by
  show ('(' :: (joined " || ".toList parts ++ [')'])) ++ rest = _
  rw [List.cons_append, List.append_assoc, List.singleton_append]

end Text

/-- One part means the same under "and" and under "or". -/
lemma allHold_eq_anyHolds {parts : List Predicate} (h : parts.length = 1)
    (build alignment : ScanResult) :
    allHold build alignment parts = anyHolds build alignment parts := by
  obtain ⟨p, rfl⟩ := List.length_eq_one_iff.1 h
  rw [allHold, allHold, anyHolds, anyHolds, Bool.and_true, Bool.or_false]

lemma readable_build (signature : String) : (build signature).Readable := by
  intro q rest rest' _ h
  cases q with
  | build signature' =>
    rw [text_build_append, text_build_append] at h
    obtain ⟨rfl, hrest⟩ := Text.quoted_append_inj (List.append_cancel_left h)
    exact ⟨fun _ _ => rfl, (List.cons.inj hrest).2⟩
  | alignment | alignmentEmpty | all | any => simp at h

lemma readable_alignment (signature : String) : (alignment signature).Readable := by
  intro q rest rest' _ h
  cases q with
  | alignment signature' =>
    rw [text_alignment_append, text_alignment_append] at h
    obtain ⟨rfl, hrest⟩ := Text.quoted_append_inj (List.append_cancel_left h)
    exact ⟨fun _ _ => rfl, (List.cons.inj hrest).2⟩
  | build | alignmentEmpty | all | any => simp at h

lemma readable_alignmentEmpty : alignmentEmpty.Readable := by
  intro q rest rest' _ h
  cases q with
  | alignmentEmpty => exact ⟨fun _ _ => rfl, List.append_cancel_left h⟩
  | build | alignment | all | any => simp at h

section Lists

variable {parts : List Predicate} (hfilled : (!parts.isEmpty && allFilled parts) = true)
  (hparts : ∀ p ∈ parts, p.filled = true → p.Readable)

include hfilled hparts

lemma readable_all : (all parts).Readable := by
  intro q rest rest' hq h
  cases q with
  | all others =>
    rw [text_all_append, text_all_append] at h
    obtain ⟨hsame, -, hrest⟩ := joined_append_inj (by decide) (by decide) hfilled hq hparts
      (List.cons.inj h).2
    exact ⟨allHold_congr hsame, hrest⟩
  | any others =>
    rw [text_all_append, text_any_append] at h
    obtain ⟨hsame, hjoints, hrest⟩ := joined_append_inj (by decide) (by decide) hfilled hq hparts
      (List.cons.inj h).2
    have hone : parts.length = 1 := hjoints.resolve_left (by decide)
    exact ⟨fun build alignment => (allHold_eq_anyHolds hone build alignment).trans
      (anyHolds_congr hsame build alignment), hrest⟩
  | build | alignment | alignmentEmpty => simp at h

lemma readable_any : (any parts).Readable := by
  intro q rest rest' hq h
  cases q with
  | any others =>
    rw [text_any_append, text_any_append] at h
    obtain ⟨hsame, -, hrest⟩ := joined_append_inj (by decide) (by decide) hfilled hq hparts
      (List.cons.inj h).2
    exact ⟨anyHolds_congr hsame, hrest⟩
  | all others =>
    rw [text_any_append, text_all_append] at h
    obtain ⟨hsame, hjoints, hrest⟩ := joined_append_inj (by decide) (by decide) hfilled hq hparts
      (List.cons.inj h).2
    have hone : parts.length = 1 := hjoints.resolve_left (by decide)
    exact ⟨fun build alignment => (allHold_eq_anyHolds hone build alignment).symm.trans
      (allHold_congr hsame build alignment), hrest⟩
  | build | alignment | alignmentEmpty => simp at h

end Lists

/-- Every predicate that is filled can be read in one way. -/
theorem readable (p : Predicate) (hp : p.filled = true) : p.Readable := by
  induction p with
  | build signature => exact readable_build signature
  | alignment signature => exact readable_alignment signature
  | alignmentEmpty => exact readable_alignmentEmpty
  | all parts ih => exact readable_all hp ih
  | any parts ih => exact readable_any hp ih

/-- No rule of the table has an empty list of parts. -/
lemma filled_of_mem_table : ∀ r ∈ Rule.table, r.predicate.filled = true := by
  decide +kernel

/-- **The printed predicate determines its meaning.** No list of parts in the table is empty. And of
any two predicates without such a list, however nested and whatever their signatures are, that print
the same text, one holds for a build log and an alignment log exactly if the other does. -/
theorem holds_eq_of_describe_eq :
    (∀ r ∈ Rule.table, r.predicate.filled = true) ∧
      ∀ p q : Predicate, p.filled = true → q.filled = true → p.describe = q.describe →
        ∀ build alignment, p.holds build alignment = q.holds build alignment := by
  refine ⟨filled_of_mem_table, fun p q hp hq hdescribe => ?_⟩
  have htext : p.text ++ [] = q.text ++ [] :=
    congrArg (· ++ []) (String.ofList_injective hdescribe)
  exact (p.readable hp q [] [] hq htext).1

/-- A signature that looks like the end of its own quotes and another condition, alone in a list
under "and" and under "or". -/
theorem holds_eq_of_describe_eq_of_quotes :
    let signature := "a\"] && build[\"b"
    let p := Predicate.all [.build signature]
    let q := Predicate.any [.build signature]
    p.filled = true ∧ q.filled = true ∧ p.describe = q.describe ∧
      ∀ build alignment, p.holds build alignment = q.holds build alignment := by
  intro signature p q
  exact ⟨rfl, rfl, rfl, holds_eq_of_describe_eq.2 p q rfl rfl rfl⟩

end Predicate

end BuildTriage
