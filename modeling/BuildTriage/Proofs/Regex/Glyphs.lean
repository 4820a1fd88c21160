import BuildTriage.Proofs.Regex.Stretches
import Mathlib.Data.List.Forall2

/-!
# Patterns of plain characters and dots

A plain character stands for itself in a pattern, and a dot for any character of the line. A
sequence of them, which we call glyphs, matches in one way at most, and where it does is where it
occurs (`OccursAt`). Two such sequences with `.*` between them are a pattern with a gap. It matches
from where the first sequence occurs to the end of every occurrence of the second one that starts
after that (`mem_runs_gap`), and it prefers the later ends (`pairwise_runs_gap`).
-/

namespace BuildTriage.Regex

variable {text : List Char}

/-! ## Glyphs -/

/-- The characters with a meaning of their own in a pattern without flags, outside brackets. The
others that can be escaped, such as the hyphen, mean something only in brackets, after a brace or
with a flag. -/
def signs : List Char :=
  "\\.+*?()|[\x7b^$".toList

/-- Whether `c` stands for itself there. -/
def isPlain (c : Char) : Bool :=
  c ∉ signs

lemma ne_of_isPlain {c d : Char} (hc : isPlain c = true) (hd : isPlain d = false) : c ≠ d := by
  rintro rfl
  exact Bool.false_ne_true (hd.symm.trans hc)

/-- A character of a pattern that stands for one character of a text. -/
inductive Glyph where
  /-- A plain character, which stands for itself. -/
  | exactly (c : Char) (plain : isPlain c = true)
  /-- The dot, which stands for any character but a line feed. -/
  | any
deriving DecidableEq

namespace Glyph

/-- The character as it is written in a pattern. -/
def char : Glyph → Char
  | exactly c _ => c
  | any => '.'

/-- The glyph that is written `c`, for a plain character or the dot. -/
def ofChar (c : Char) : Glyph :=
  if h : isPlain c = true then exactly c h else any

/-- Whether the glyph stands for `c`. -/
def Admits : Glyph → Char → Prop
  | exactly d _, c => c = d
  | any, c => c ≠ '\n'

instance (g : Glyph) (c : Char) : Decidable (g.Admits c) :=
  match g with
  | exactly d _ => inferInstanceAs (Decidable (c = d))
  | any => inferInstanceAs (Decidable (c ≠ '\n'))

/-- The characters that the glyph stands for. -/
def set : Glyph → CharSet
  | exactly c _ => .single c
  | any => .notNewline

lemma contains_set (g : Glyph) (c : Char) : g.set.contains c = true ↔ g.Admits c := by
  cases g with
  | exactly d =>
    rw [set, Admits, ← Char.toNat_inj]
    simp only [CharSet.contains, CharSet.single, Text.inRanges, List.any_cons, List.any_nil,
      Bool.or_false, Bool.and_eq_true, decide_eq_true_eq]
    omega
  | any => exact contains_notNewline c

/-- The expression of the glyph. -/
def regex (g : Glyph) : Regex :=
  .chars g.set

/-- The item that the glyph is read to. -/
def item (g : Glyph) : Item :=
  { regex := g.regex }

end Glyph

/-! ## Where glyphs occur -/

/-- The text has, from the position on, one character for each of the glyphs. -/
def OccursAt (gs : List Glyph) (text : List Char) (i : Nat) : Prop :=
  ∃ before part after, text = before ++ part ++ after ∧ before.length = i ∧
    List.Forall₂ Glyph.Admits gs part

lemma occursAt_iff {gs : List Glyph} {i : Nat} :
    OccursAt gs text i ↔
      i ≤ text.length ∧ List.Forall₂ Glyph.Admits gs ((text.drop i).take gs.length) := by
  constructor
  · rintro ⟨before, part, after, rfl, rfl, hpart⟩
    rw [List.append_assoc, List.drop_left, hpart.length_eq, List.take_left]
    exact ⟨by simp, hpart⟩
  · rintro ⟨hi, hpart⟩
    refine ⟨text.take i, _, (text.drop i).drop gs.length, ?_, List.length_take_of_le hi, hpart⟩
    rw [List.append_assoc, List.take_append_drop, List.take_append_drop]

instance (gs : List Glyph) (text : List Char) (i : Nat) : Decidable (OccursAt gs text i) :=
  decidable_of_iff' _ occursAt_iff

lemma OccursAt.add_length_le {gs : List Glyph} {i : Nat} (h : OccursAt gs text i) :
    i + gs.length ≤ text.length := by
  obtain ⟨before, part, after, rfl, rfl, hpart⟩ := h
  rw [hpart.length_eq]
  simp

lemma occursAt_nil {i : Nat} : OccursAt [] text i ↔ i ≤ text.length := by
  simp [occursAt_iff]

lemma occursAt_cons {g : Glyph} {gs : List Glyph} {i : Nat} :
    OccursAt (g :: gs) text i ↔ text[i]?.any g.set.contains = true ∧ OccursAt gs text (i + 1) := by
  rcases Nat.lt_or_ge i text.length with hlt | hge
  · have hdrop : text.drop i = text[i] :: text.drop (i + 1) := List.drop_eq_getElem_cons hlt
    have hle : i ≤ text.length := Nat.le_of_lt hlt
    rw [occursAt_iff, occursAt_iff, hdrop, List.length_cons, List.take_succ_cons,
      List.forall₂_cons, List.getElem?_eq_getElem hlt, Option.any_some, g.contains_set]
    simp only [hle, Nat.succ_le_of_lt hlt, true_and]
  · rw [List.getElem?_eq_none hge]
    simp only [Option.any_none, Bool.false_eq_true, false_and, iff_false]
    intro h
    have := h.add_length_le
    rw [List.length_cons] at this
    omega

/-! ## Matches of glyphs -/

lemma runs_seqAll_cons (r : Regex) (rs : List Regex) (i : Nat) :
    (seqAll (r :: rs)).runs text i = continued (r.runs text i) ((seqAll rs).runs text) := by
  cases rs with
  | nil =>
    simp only [seqAll, runs, continued, List.map_cons, List.map_nil, Match.after_mk]
    simp
  | cons next rs => rfl

variable {i : Nat}

/-- Glyphs are matched where they occur, with what follows them after them, and nowhere else. -/
lemma runs_glyphs_append (hi : i ≤ text.length) (gs : List Glyph) (rs : List Regex) :
    (seqAll (gs.map Glyph.regex ++ rs)).runs text i
      = if OccursAt gs text i then (seqAll rs).runs text (i + gs.length) else [] := by
  induction gs generalizing i with
  | nil =>
    rw [if_pos (occursAt_nil.2 hi)]
    rfl
  | cons g gs ih =>
    rw [List.map_cons, List.cons_append, runs_seqAll_cons, Glyph.regex, runs]
    by_cases hread : text[i]?.any g.set.contains = true
    · have hstop : i + 1 + gs.length = i + (g :: gs).length := by
        rw [List.length_cons]
        omega
      rw [if_pos hread, continued_singleton, map_after_nil, ih (lt_length_of_any hread), hstop]
      simp only [occursAt_cons, hread, true_and]
    · rw [if_neg hread, if_neg fun h => hread (occursAt_cons.1 h).1]
      rfl

lemma runs_glyphs (hi : i ≤ text.length) (gs : List Glyph) :
    (seqAll (gs.map Glyph.regex)).runs text i
      = if OccursAt gs text i then [⟨i + gs.length, []⟩] else [] := by
  have h := runs_glyphs_append hi gs []
  rw [List.append_nil] at h
  exact h

/-! ## Matches of a pattern with a gap -/

/-- The expression of glyphs, of any text within a line, and of further glyphs. -/
def gap (a b : List Glyph) : Regex :=
  seqAll (a.map Glyph.regex ++ restOfLine :: b.map Glyph.regex)

variable {a b : List Glyph}

/-- After the first part the gap ends in every way that it can, and those ends count where the second
part occurs. -/
lemma runs_gap (h : OccursAt a text i) :
    (gap a b).runs text i = (starRuns text .notNewline true (i + a.length)).flatMap fun m =>
      if OccursAt b text m.stop then [⟨m.stop + b.length, []⟩] else [] := by
  have hi : i ≤ text.length := Nat.le_of_add_right_le h.add_length_le
  rw [gap, runs_glyphs_append hi, if_pos h, runs_seqAll_cons]
  refine List.flatMap_congr fun m hm => ?_
  obtain ⟨hmarks, -, hstop, -⟩ := (mem_starRuns h.add_length_le).1 hm
  rw [runs_glyphs hstop, hmarks, map_after_nil]

lemma runs_gap_of_not (hi : i ≤ text.length) (h : ¬OccursAt a text i) :
    (gap a b).runs text i = [] := by
  rw [gap, runs_glyphs_append hi, if_neg h]

/-- A match of a pattern with a gap runs from where its first part occurs to the end of a later
occurrence of its second part. -/
lemma of_mem_runs_gap (hi : i ≤ text.length) {m : Match} (hm : m ∈ (gap a b).runs text i) :
    OccursAt a text i ∧ ∃ t, OccursAt b text t ∧ i + a.length ≤ t ∧ m = ⟨t + b.length, []⟩ := by
  by_cases h : OccursAt a text i
  · rw [runs_gap h, List.mem_flatMap] at hm
    obtain ⟨before, hbefore, hm⟩ := hm
    obtain ⟨-, hlow, -, -⟩ := (mem_starRuns h.add_length_le).1 hbefore
    split at hm
    · next hb => exact ⟨h, before.stop, hb, hlow, List.mem_singleton.1 hm⟩
    · cases hm
  · rw [runs_gap_of_not hi h] at hm
    cases hm

/-- Within a line there is such a match for any later occurrence of the second part. -/
lemma mem_runs_gap (hline : '\n' ∉ text) (hi : i ≤ text.length) {m : Match} :
    m ∈ (gap a b).runs text i ↔ OccursAt a text i ∧
      ∃ t, OccursAt b text t ∧ i + a.length ≤ t ∧ m = ⟨t + b.length, []⟩ := by
  refine ⟨of_mem_runs_gap hi, ?_⟩
  rintro ⟨h, t, hb, hlow, rfl⟩
  have hhigh : t ≤ text.length := Nat.le_of_add_right_le hb.add_length_le
  rw [runs_gap h, List.mem_flatMap]
  refine ⟨⟨t, []⟩, (mem_starRuns h.add_length_le).2 ⟨rfl, hlow, hhigh, fun c hc => ?_⟩, ?_⟩
  · rw [contains_notNewline]
    rintro rfl
    exact hline (List.mem_of_mem_drop (List.mem_of_mem_take hc))
  · rw [if_pos hb]
    exact List.mem_singleton_self _

/-- Of its matches from one position it prefers those that end later. -/
lemma pairwise_runs_gap (hi : i ≤ text.length) :
    ((gap a b).runs text i).Pairwise fun m m' => m'.stop < m.stop := by
  by_cases h : OccursAt a text i
  · rw [runs_gap h, List.pairwise_flatMap]
    constructor
    · intro before _
      split
      · exact List.pairwise_singleton _ _
      · exact List.Pairwise.nil
    · refine (pairwise_starRuns .notNewline h.add_length_le).imp ?_
      intro before before' hlater m hm m' hm'
      split at hm <;> split at hm'
      · rw [List.mem_singleton.1 hm, List.mem_singleton.1 hm']
        exact Nat.add_lt_add_right hlater _
      all_goals contradiction
  · rw [runs_gap_of_not hi h]
    exact List.Pairwise.nil

/-! ## Reading a pattern with a gap -/

/-- The pattern of glyphs, of any text within a line, and of further glyphs. -/
def gapPattern (a b : List Glyph) : List Char :=
  a.map Glyph.char ++ '.' :: '*' :: b.map Glyph.char

variable (engine : Engine)

/-- The state in which the items have been read, the latest first, and no group is open. -/
def reading (items : List Item) : ParseState :=
  { level := { items := items } }

lemma parseFrom_reading (fuel : Nat) (items : List Item) (c : Char) (rest : List Char) :
    parseFrom engine (fuel + 1) (reading items) (c :: rest)
      = (reading items).read? engine (c :: rest) >>= fun p => parseFrom engine fuel p.1 p.2 :=
  parseFrom_of_skip_ne_nil (s := reading items) (List.cons_ne_nil c rest) fuel

lemma read?_glyph (g : Glyph) (items : List Item) (rest : List Char) :
    (reading items).read? engine (g.char :: rest) = some (reading (g.item :: items), rest) := by
  cases g with
  | any => rfl
  | exactly c plain =>
    have hne : ∀ {d : Char}, isPlain d = false → ∀ rest', c :: rest ≠ d :: rest' := by
      intro d hd rest' heq
      exact ne_of_isPlain plain hd (List.cons.inj heq).1
    have hatom : readAtom {} (c :: rest) = some (.literal c false, rest) := by
      rw [readAtom.eq_6]
      all_goals exact ne_of_isPlain plain rfl
    rw [Glyph.char, ParseState.read?.eq_9 engine (reading items) (c :: rest) (hne rfl) (hne rfl)
      (hne rfl) (hne rfl) (hne rfl) (hne rfl) (hne rfl) (hne rfl)]
    change (readAtom {} (c :: rest) >>= _) = _
    rw [hatom]
    rfl

lemma parseFrom_glyphs (gs : List Glyph) (fuel : Nat) (items : List Item) (rest : List Char) :
    parseFrom engine (fuel + gs.length) (reading items) (gs.map Glyph.char ++ rest)
      = parseFrom engine fuel (reading ((gs.map Glyph.item).reverse ++ items)) rest := by
  induction gs generalizing items with
  | nil => rfl
  | cons g gs ih =>
    rw [List.length_cons, ← Nat.add_assoc, List.map_cons, List.cons_append, parseFrom_reading,
      read?_glyph, Option.bind_eq_bind, Option.bind_some, ih, List.map_cons, List.reverse_cons,
      List.append_assoc, List.singleton_append]

/-- No sign of a repetition stands where glyphs start. -/
lemma readLazy_glyphs (gs : List Glyph) {rest : List Char} (hrest : ∀ text, rest ≠ '?' :: text) :
    readLazy (gs.map Glyph.char ++ rest) = (true, gs.map Glyph.char ++ rest) := by
  have hsign : ∀ text, gs.map Glyph.char ++ rest ≠ '?' :: text := by
    intro text heq
    cases gs with
    | nil => exact hrest text heq
    | cons g gs =>
      have hchar : g.char = '?' := (List.cons.inj heq).1
      cases g with
      | any => exact absurd hchar (by decide)
      | exactly c plain => exact ne_of_isPlain plain rfl hchar
  rw [readLazy.eq_2 _ hsign]

/-- What the two characters of the gap are read to. -/
def gapItem : Item :=
  { regex := restOfLine, depth := 1 }

/-- What a pattern with a gap is read to, item by item. -/
def gapItems (a b : List Glyph) : List Item :=
  a.map Glyph.item ++ gapItem :: b.map Glyph.item

/-- A pattern with a gap is read to its items, whatever follows that does not bear on the last. -/
lemma parseFrom_gapPattern (a b : List Glyph) (fuel : Nat) {rest : List Char}
    (hrest : ∀ text, rest ≠ '?' :: text) :
    parseFrom engine (fuel + (gapPattern a b).length) {} (gapPattern a b ++ rest)
      = parseFrom engine fuel (reading (gapItems a b).reverse) rest := by
  have hlength : fuel + (gapPattern a b).length = fuel + b.length + 2 + a.length := by
    simp only [gapPattern, List.length_append, List.length_cons, List.length_map]
    omega
  have hstar : ∀ (fuel : Nat) (items : List Item) (text : List Char), readLazy text = (true, text) →
      parseFrom engine (fuel + 2) (reading items) ('.' :: '*' :: text)
        = parseFrom engine fuel (reading (gapItem :: items)) text := by
    intro fuel items text htext
    have hsign : (reading (Glyph.any.item :: items)).read? engine ('*' :: text)
        = some (reading (gapItem :: items), text) := by
      rw [ParseState.read?, ParseState.read?.repetition, htext]
      rfl
    have hdot := read?_glyph engine .any items ('*' :: text)
    rw [Glyph.char] at hdot
    rw [parseFrom_reading, hdot, Option.bind_eq_bind, Option.bind_some, parseFrom_reading, hsign,
      Option.bind_eq_bind, Option.bind_some]
  rw [hlength, gapPattern, List.append_assoc, List.cons_append, List.cons_append]
  change parseFrom engine _ (reading []) _ = _
  rw [parseFrom_glyphs, hstar _ _ _ (readLazy_glyphs b hrest), parseFrom_glyphs]
  simp [gapItems]

lemma Item.regex_concat (items : List Item) :
    (Item.concat items).regex = seqAll (items.reverse.map (·.regex)) := by
  fun_cases Item.concat items <;> rfl

lemma Item.depth_concat_le {items : List Item} {n : Nat} (h : ∀ item ∈ items, item.depth ≤ n) :
    (Item.concat items).depth ≤ n + 1 := by
  fun_cases Item.concat items with
  | case1 => exact Nat.zero_le _
  | case2 item => exact Nat.le_succ_of_le (h item List.mem_cons_self)
  | case3 =>
    refine Nat.succ_le_succ ?_
    refine List.foldlRecOn (motive := (· ≤ n)) _ _ (Nat.zero_le n) ?_
    intro deepest hdeepest depth hmem
    obtain ⟨item, hitem, rfl⟩ := List.mem_map.1 hmem
    exact Nat.max_le.2 ⟨hdeepest, h item hitem⟩

/-- The pattern denotes the expression, and is nested hardly at all. -/
lemma item?_gapPattern (a b : List Glyph) :
    ∃ item, item? engine (gapPattern a b) = some item ∧ item.regex = gap a b ∧ item.depth ≤ 2 := by
  have hread : parseFrom engine ((gapPattern a b).length + 1) {} (gapPattern a b)
      = some (reading (gapItems a b).reverse) := by
    have hend : ∀ text, [] ≠ '?' :: text := fun text => (List.cons_ne_nil _ text).symm
    have h := parseFrom_gapPattern engine a b 1 hend
    rw [List.append_nil, Nat.add_comm] at h
    exact h
  refine ⟨Item.concat (gapItems a b).reverse, by rw [item?, hread]; rfl, ?_, ?_⟩
  · rw [Item.regex_concat, List.reverse_reverse, gapItems, List.map_append, List.map_cons,
      List.map_map, List.map_map]
    rfl
  · refine Item.depth_concat_le fun item hitem => ?_
    simp only [gapItems, List.mem_reverse, List.mem_append, List.mem_cons, List.mem_map] at hitem
    rcases hitem with ⟨g, -, rfl⟩ | rfl | ⟨g, -, rfl⟩
    · exact Nat.zero_le 1
    · exact Nat.le_refl 1
    · exact Nat.zero_le 1

lemma not_endsInComment_gapPattern (a b : List Glyph) :
    ¬EndsInComment engine (gapPattern a b) := by
  obtain ⟨item, hitem, -, -⟩ := item?_gapPattern engine a b
  have hending : ∀ text, lineEnding ≠ '?' :: text := by
    intro text heq
    exact absurd (List.cons.inj heq).1 (by decide)
  have h := parseFrom_gapPattern engine a b (lineEnding.length + 1) hending
  have hclosed : item? engine (gapPattern a b ++ lineEnding) = none := by
    rw [item?, List.length_append, Nat.add_assoc, Nat.add_comm, h]
    rfl
  rw [EndsInComment, hclosed, hitem]
  exact (Option.some_ne_none item).symm

end BuildTriage.Regex
