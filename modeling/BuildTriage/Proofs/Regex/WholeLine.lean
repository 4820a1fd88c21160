import BuildTriage.Log.Pattern
import BuildTriage.Proofs.Regex.Reading

/-!
# The expression for a whole line

The pattern of a whole line holds a pattern `p` as its first group. Reading it passes through the
states that reading `p` alone passes through, inside that group and with every group of `p` numbered
one higher (`ParseState.embed`). What stands after `p` then closes the group, unless `p` ends in a
comment that swallows it (`closes_or_swallows`). In the first case the expression for the whole line
is that of `p`, with its marks shifted, between what the added text denotes (`item?_wholeLine`); in
the second case there is none.
-/

namespace BuildTriage.Regex

/-- The number in the longer pattern of a group of the pattern. The number 0, which would be that of
the whole match, is no group's. -/
def shiftGroup : Nat → Nat
  | 0 => 0
  | k + 1 => k + 2

/-- The mark in the longer pattern of a group of the pattern. -/
def shiftSlot : Nat → Nat
  | slot + 2 => slot + 4
  | slot => slot

/-- The expression with the marks of every group shifted. -/
def shift : Regex → Regex
  | .mark slot => .mark (shiftSlot slot)
  | .cat a b => .cat a.shift b.shift
  | .alt a b => .alt a.shift b.shift
  | .rep body min max greedy => .rep body.shift min max greedy
  | r => r

/-- Any text within a line, as much as possible. -/
def restOfLine : Regex :=
  .rep (.chars .notNewline) 0 none true

/-- The expression `r` as the first group of an expression for a whole line. -/
def inLine (r : Regex) : Regex :=
  seqAll [.assert .textStart, restOfLine, group 1 r.shift, restOfLine, .assert .textEnd]

lemma shift_seqAll (rs : List Regex) : (seqAll rs).shift = seqAll (rs.map shift) := by
  fun_induction seqAll rs with
  | case1 => rfl
  | case2 => rfl
  | case3 a rest hrest ih =>
    obtain ⟨b, more, rfl⟩ := List.exists_cons_of_ne_nil hrest
    rw [shift, ih]
    rfl

lemma canBeEmpty_shift (r : Regex) : r.shift.canBeEmpty = r.canBeEmpty := by
  induction r with
  | empty | chars | assert | mark => rfl
  | cat a b iha ihb | alt a b iha ihb => rw [shift, canBeEmpty, canBeEmpty, iha, ihb]
  | rep body min max greedy ih => rw [shift, canBeEmpty, canBeEmpty, ih]

lemma shift_repeated (body : Regex) (min : Nat) (max : Option Nat) (greedy : Bool) :
    (body.repeated min max greedy).shift = body.shift.repeated min max greedy := by
  rw [repeated, repeated, canBeEmpty_shift]
  split <;> rfl

lemma shift_altAll (rs : List Regex) : (altAll rs).shift = altAll (rs.map shift) := by
  fun_induction altAll rs with
  | case1 => rfl
  | case2 => rfl
  | case3 a rest hrest ih =>
    obtain ⟨b, more, rfl⟩ := List.exists_cons_of_ne_nil hrest
    rw [shift, ih]
    rfl

lemma shift_group (k : Nat) (r : Regex) :
    (group k r).shift = group (shiftGroup k) r.shift := by
  cases k <;> rfl

variable {engine : Engine}

/-- An atom puts no mark. -/
lemma shift_of_toRegex? {flags : Flags} {atom : Atom} {r : Regex}
    (h : atom.toRegex? engine flags = some r) : r.shift = r := by
  revert h
  fun_cases Atom.toRegex? engine flags atom
  case case14 =>
    intro h
    obtain ⟨set, -, rfl⟩ := Option.map_eq_some_iff.1 h
    rfl
  all_goals rintro ⟨⟩
  all_goals rfl

/-! ## States of the reader -/

/-- The item with its marks shifted. -/
def Item.shift (item : Item) : Item :=
  { item with regex := item.regex.shift }

/-- The level with its marks shifted. -/
def Level.shift (level : Level) : Level :=
  ⟨level.branches.map Item.shift, level.items.map Item.shift⟩

/-- The open group with its marks shifted, and its number with them. -/
def OpenGroup.shift (g : OpenGroup) : OpenGroup :=
  ⟨g.around.shift, g.capture.map shiftGroup, g.flags⟩

@[simp] lemma Item.regex_shift (item : Item) : item.shift.regex = item.regex.shift :=
  rfl

@[simp] lemma Item.depth_shift (item : Item) : item.shift.depth = item.depth :=
  rfl

lemma Item.shift_concat (items : List Item) :
    (Item.concat items).shift = Item.concat (items.map Item.shift) := by
  rcases items with _ | ⟨a, _ | ⟨b, items⟩⟩
  · rfl
  · rfl
  · simp only [Item.concat, Item.shift, shift_seqAll]
    simp [Function.comp_def]

lemma Level.shift_close (level : Level) : level.close.shift = level.shift.close := by
  obtain ⟨_ | ⟨branch, branches⟩, items⟩ := level
  · exact Item.shift_concat items
  · have hlast := Item.shift_concat items
    have hregex : (Item.concat items).regex.shift = (Item.concat (items.map Item.shift)).regex := by
      rw [← hlast, Item.regex_shift]
    have hdepth : (Item.concat items).depth = (Item.concat (items.map Item.shift)).depth := by
      rw [← hlast, Item.depth_shift]
    simp only [Level.close, Level.shift, List.map_cons, Item.shift, shift_altAll]
    simp [Function.comp_def, hregex, hdepth]

/-- What stands around the pattern's group: its items are held last first. -/
def lineGroup : OpenGroup where
  around := { items := [{ regex := restOfLine, depth := 1 }, { regex := .assert .textStart }] }
  capture := some 1
  flags := {}

namespace ParseState

/-- The state inside the group that the pattern is in a longer one. -/
def embed (s : ParseState) : ParseState where
  flags := s.flags
  level := s.level.shift
  stack := s.stack.map OpenGroup.shift ++ [lineGroup]
  groups := s.groups + 1
  names := s.names

lemma embed_push (s : ParseState) (item : Item) :
    (s.push item).embed = s.embed.push item.shift :=
  rfl

lemma embed_bar (s : ParseState) : s.bar.embed = s.embed.bar := by
  simp only [bar, embed, Level.shift, List.map_cons, List.map_nil, Item.shift_concat]

lemma leave_carries (s : ParseState) :
    Carries (fun s s' => s' = s.embed) s.leave s.embed.leave := by
  obtain ⟨flags, level, _ | ⟨⟨around, capture, outer⟩, stack⟩, groups, names⟩ := s
  · exact .none _
  · refine .some ?_
    have hregex : level.shift.close.regex = level.close.regex.shift := by
      rw [← Level.shift_close, Item.regex_shift]
    have hdepth : level.shift.close.depth = level.close.depth := by
      rw [← Level.shift_close, Item.depth_shift]
    cases capture with
    | none =>
      simp only [embed, OpenGroup.shift, Option.map_none, hregex, hdepth]
      rfl
    | some k =>
      simp only [embed, OpenGroup.shift, Option.map_some, hregex, hdepth, ← shift_group]
      rfl

lemma repeatLast_carries (s : ParseState) (min : Nat) (max : Option Nat) (greedy : Bool) :
    Carries (fun s s' => s' = s.embed) (s.repeatLast min max greedy)
      (s.embed.repeatLast min max greedy) := by
  obtain ⟨flags, ⟨branches, _ | ⟨⟨regex, depth, _ | _⟩, items⟩⟩, stack, groups, names⟩ := s
  · exact .none _
  · exact .none _
  · have hrepeated := regex.shift_repeated min max (greedy != flags.swapGreed)
    refine .some ?_
    simp only [embed, Level.shift, Item.shift, List.map_cons, hrepeated]

end ParseState

/-! ## Reading on -/

variable {text text' : List Char}

/-- The second state is the first one inside the group of a longer pattern, and the same text is
left to read. -/
def Embeds (p p' : ParseState × List Char) : Prop :=
  p' = (p.1.embed, p.2)

lemma readGroup_embeds (s : ParseState) (text : List Char) :
    Carries Embeds (readGroup s text) (readGroup s.embed text) := by
  have hnamed : ∀ text, Carries Embeds (readGroup.named s text) (readGroup.named s.embed text) := by
    intro text
    refine .bind_same _ fun (name, rest) => ?_
    change Carries Embeds (if s.names.contains name then none else _)
      (if s.names.contains name then none else _)
    split
    · exact .none _
    · exact .some rfl
  have hflagged : ∀ text,
      Carries Embeds (readGroup.flagged s text) (readGroup.flagged s.embed text) := by
    intro text
    refine .bind_same _ fun (items, stop, rest) => ?_
    dsimp only
    split
    · exact .some rfl
    · split
      · exact .none _
      · exact .some rfl
  have hspecial : ∀ text,
      Carries Embeds (readGroup.special s text) (readGroup.special s.embed text) := by
    intro text
    unfold readGroup.special
    split
    case h_1 => exact hnamed _
    case h_6 => exact hnamed _
    case h_7 => exact hflagged _
    all_goals exact .none _
  have hflags : s.embed.flags = s.flags := rfl
  unfold readGroup
  rw [hflags]
  split
  · exact hspecial _
  · exact .some rfl

namespace ParseState

lemma repetition_embeds (s : ParseState) (min : Nat) (max : Option Nat) (text : List Char) :
    Carries Embeds (read?.repetition s min max text) (read?.repetition s.embed min max text) := by
  refine (s.repeatLast_carries min max _).map ?_
  rintro s _ rfl
  rfl

/-- A step of the reader of the pattern is a step inside the group. -/
lemma read?_embeds (s : ParseState) (text : List Char) :
    Carries Embeds (s.read? engine text) (s.embed.read? engine text) := by
  fun_cases read? engine s text with
  | case1 rest => exact readGroup_embeds s rest
  | case2 rest =>
    refine s.leave_carries.map ?_
    rintro s _ rfl
    rfl
  | case3 rest =>
    rw [read?, ← embed_bar]
    exact .some rfl
  | case4 rest => exact .map_same _ fun item => rfl
  | case5 rest => exact s.repetition_embeds 0 (some 1) rest
  | case6 rest => exact s.repetition_embeds 0 none rest
  | case7 rest => exact s.repetition_embeds 1 none rest
  | case8 rest =>
    refine .bind_same _ ?_
    rintro ⟨min, max, rest⟩
    exact s.repetition_embeds min max (s.flags.skip rest)
  | case9 _ hopen hclose hbar hbracket hquestion hstar hplus hbrace =>
    rw [read?.eq_9 engine s.embed _ hopen hclose hbar hbracket hquestion hstar hplus hbrace]
    refine .bind_same _ ?_
    rintro ⟨atom, rest⟩
    dsimp only
    have hflags : s.embed.flags = s.flags := rfl
    rw [hflags]
    cases hregex : atom.toRegex? engine s.flags with
    | none => exact .none _
    | some regex =>
      -- An atom is read to an item that has no marks to shift.
      refine .some ?_
      rw [Embeds, embed_push, Item.shift, shift_of_toRegex? hregex]

end ParseState

/-! ## The ending -/

/-- Read from `s`, the ending comes up in state `r` after some steps. There it closes the group that
the pattern stands in. By itself, where no group is open, it is an error. -/
structure Closes (engine : Engine) (steps : Nat) (s r : ParseState) (text : List Char) : Prop where
  embedded : ∀ fuel, parseFrom engine (steps + fuel + 1) s.embed text
    = r.embed.leave >>= fun s => parseFrom engine fuel s ['.', '*', '$']
  alone : ∀ fuel, parseFrom engine fuel s text = none

/-- Read from `s`, the ending does not come up, as a comment has swallowed it. The group that the
pattern stands in stays open, which is an error. By itself the text is read to the state `r`. -/
structure Swallows (engine : Engine) (steps : Nat) (s r : ParseState) (text : List Char) :
    Prop where
  embedded : ∀ fuel, parseFrom engine fuel s.embed text = none
  alone : ∀ fuel, parseFrom engine (steps + fuel + 1) s text = some r

section Step

variable {steps : Nat} {s s₁ r : ParseState} {rest : List Char}

/-- After one step from either state the readers go on from the states after it. -/
lemma parseFrom_step (hskip : s.flags.skip text ≠ [])
    (hread : s.read? engine (s.flags.skip text) = some (s₁, rest)) (fuel : Nat) :
    parseFrom engine (fuel + 1) s text = parseFrom engine fuel s₁ rest ∧
      parseFrom engine (fuel + 1) s.embed text = parseFrom engine fuel s₁.embed rest := by
  obtain ⟨_, hembed, rfl⟩ := s.read?_embeds _ _ hread
  have hflags : s.embed.flags = s.flags := rfl
  constructor
  · rw [parseFrom_of_skip_ne_nil hskip, hread]
    rfl
  · rw [parseFrom_of_skip_ne_nil (by rwa [hflags]), hflags, hembed]
    rfl

lemma Closes.step (h : Closes engine steps s₁ r rest) (hskip : s.flags.skip text ≠ [])
    (hread : s.read? engine (s.flags.skip text) = some (s₁, rest)) :
    Closes engine (steps + 1) s r text where
  embedded fuel := by
    rw [Nat.add_right_comm steps 1 fuel, (parseFrom_step hskip hread _).2, h.embedded]
  alone
    | 0 => rfl
    | fuel + 1 => by rw [(parseFrom_step hskip hread fuel).1, h.alone]

lemma Swallows.step (h : Swallows engine steps s₁ r rest) (hskip : s.flags.skip text ≠ [])
    (hread : s.read? engine (s.flags.skip text) = some (s₁, rest)) :
    Swallows engine (steps + 1) s r text where
  embedded
    | 0 => rfl
    | fuel + 1 => by rw [(parseFrom_step hskip hread fuel).2, h.embedded]
  alone fuel := by
    rw [Nat.add_right_comm steps 1 fuel, (parseFrom_step hskip hread _).1, h.alone]

lemma closes_of_skip (hstack : s.stack = []) (hskip : s.flags.skip text = lineEnding) :
    Closes engine 0 s s text where
  embedded fuel := by
    have hflags : s.embed.flags = s.flags := rfl
    have hne : s.embed.flags.skip text ≠ [] := by
      rw [hflags, hskip]
      exact List.cons_ne_nil _ _
    rw [Nat.zero_add, parseFrom_of_skip_ne_nil hne, hflags, hskip, lineEnding, ParseState.read?]
    cases s.embed.leave <;> rfl
  alone
    | 0 => rfl
    | fuel + 1 => by
      have hne : s.flags.skip text ≠ [] := by
        rw [hskip]
        exact List.cons_ne_nil _ _
      rw [parseFrom_of_skip_ne_nil hne, hskip, lineEnding, ParseState.read?, ParseState.leave,
        hstack]
      rfl

lemma swallows_of_skip (hstack : s.stack = []) (hskip : s.flags.skip text = []) :
    Swallows engine 0 s s text where
  embedded
    | 0 => rfl
    | fuel + 1 => by
      have hflags : s.embed.flags = s.flags := rfl
      have hopen : s.embed.stack.isEmpty = false := by simp [ParseState.embed]
      rw [parseFrom_of_skip_eq_nil (by rwa [hflags]), hopen]
      rfl
  alone fuel := by
    rw [parseFrom_of_skip_eq_nil hskip, hstack]
    rfl

end Step

/-- Where a pattern is read from a state to the end, the ending after it comes up and closes a group
around the pattern, or a comment swallows it. The induction is on the fuel of the reader of the
pattern alone. -/
lemma closes_or_swallows {fuel : Nat} {s r : ParseState}
    (hr : parseFrom engine fuel s text = some r) (h : Extends text text') :
    r.stack = [] ∧ ∃ steps < fuel,
      Closes engine steps s r text' ∨ Swallows engine steps s r text' := by
  induction fuel generalizing s text text' with
  | zero => cases hr
  | succ fuel ih =>
    have hskip := s.flags.skip_extends h
    by_cases hnil : s.flags.skip text = []
    · rw [parseFrom_of_skip_eq_nil hnil] at hr
      split at hr
      · next hempty =>
        cases hr
        have hstack := List.isEmpty_iff.1 hempty
        rw [hnil] at hskip
        rcases hskip with hend | ⟨-, hend⟩
        · exact ⟨hstack, 0, Nat.succ_pos _, .inl (closes_of_skip hstack hend)⟩
        · exact ⟨hstack, 0, Nat.succ_pos _, .inr (swallows_of_skip hstack hend)⟩
      · cases hr
    · rw [parseFrom_of_skip_ne_nil hnil] at hr
      obtain ⟨⟨s₁, rest⟩, hread, hr⟩ := Option.bind_eq_some_iff.1 hr
      have hlong := hskip.of_ne_nil hnil
      obtain ⟨⟨_, rest'⟩, hread', rfl, hrest⟩ := s.read?_carries hnil _ hread
      rw [← hlong] at hread'
      have hne : s.flags.skip text' ≠ [] := by
        rw [hlong]
        exact List.append_ne_nil_of_left_ne_nil hnil _
      obtain ⟨hstack, steps, hsteps, hcloses | hswallows⟩ := ih hr hrest
      · exact ⟨hstack, steps + 1, Nat.succ_lt_succ hsteps, .inl (hcloses.step hne hread')⟩
      · exact ⟨hstack, steps + 1, Nat.succ_lt_succ hsteps, .inr (hswallows.step hne hread')⟩

/-! ## The whole line -/

/-- What a pattern is read to, whatever its nesting and its size. -/
def item? (engine : Engine) (pattern : List Char) : Option Item :=
  (parseFrom engine (pattern.length + 1) {} pattern).map fun s => s.level.close

lemma parse?_eq_some_iff {pattern : List Char} {r : Regex} :
    parse? pattern engine = some r ↔ ∃ item, item? engine pattern = some item ∧
      item.depth ≤ maxDepth ∧ engine.fits item.regex ∧ item.regex = r := by
  rw [parse?, item?]
  cases parseFrom engine (pattern.length + 1) {} pattern with
  | none => simp
  | some s => simp [and_assoc]

/-- A pattern ends in a comment if the ending of a whole line can be put after it and is not read. In
no other way can a parenthesis be put after a pattern that closes no group. -/
def EndsInComment (engine : Engine) (pattern : List Char) : Prop :=
  item? engine (pattern ++ lineEnding) = item? engine pattern

instance (pattern : List Char) : Decidable (EndsInComment engine pattern) :=
  inferInstanceAs (Decidable (_ = _))

/-- A pattern as the first group of an expression for a whole line. -/
def Item.inLine (item : Item) : Item where
  regex := item.regex.inLine
  depth := item.depth + 2

/-- The text before the group of the pattern is read to the state in which the group is opened. -/
lemma parseFrom_lineStart (fuel : Nat) (text : List Char) :
    parseFrom engine (fuel + 4) {} ('^' :: '.' :: '*' :: '(' :: text)
      = readGroup { level := lineGroup.around } text >>= fun p => parseFrom engine fuel p.1 p.2 :=
  rfl

lemma readGroup_lineStart (hsign : ∀ rest, text ≠ '?' :: rest) :
    readGroup { level := lineGroup.around } text = some (({} : ParseState).embed, text) := by
  unfold readGroup
  split
  · next rest heq => exact absurd heq (hsign rest)
  · rfl

/-- The text after the group of the pattern is read to the end. -/
lemma parseFrom_lineEnd (fuel : Nat) (level : Level) (groups : Nat) (names : List (List Char)) :
    parseFrom engine (fuel + 4) ⟨{}, level, [], groups, names⟩ ['.', '*', '$']
      = some ⟨{}, { level with items :=
          { regex := .assert .textEnd } :: { regex := restOfLine, depth := 1 } :: level.items }, [],
          groups, names⟩ :=
  rfl

/-- The group is closed to the pattern's item, and the items around it make up the line. -/
lemma leave_embed {r : ParseState} (hstack : r.stack = []) (fuel : Nat) :
    (r.embed.leave >>= fun s => parseFrom engine (fuel + 4) s ['.', '*', '$']).map
        (fun s => s.level.close)
      = some r.level.close.inLine := by
  obtain ⟨flags, level, _, groups, names⟩ := r
  obtain rfl : _ = [] := hstack
  have hregex : level.shift.close.regex = level.close.regex.shift := by
    rw [← Level.shift_close, Item.regex_shift]
  have hdepth : level.shift.close.depth = level.close.depth := by
    rw [← Level.shift_close, Item.depth_shift]
  have hleave : (⟨flags, level, [], groups, names⟩ : ParseState).embed.leave
      = some ⟨{}, { lineGroup.around with items :=
          { regex := group 1 level.close.regex.shift, depth := level.close.depth + 1 } ::
            lineGroup.around.items }, [], groups + 1, names⟩ := by
    rw [← hregex, ← hdepth]
    rfl
  rw [hleave, Option.bind_eq_bind, Option.bind_some, parseFrom_lineEnd]
  simp [Level.close, Item.concat, Item.inLine, inLine, lineGroup]

/-- **The expression for a whole line** is that of the pattern as the first group, between what the
text around it denotes. There is none if the pattern ends in a comment. -/
theorem item?_wholeLine {p : List Char} {item : Item} (h : item? engine p = some item) :
    item? engine (Pattern.wholeLine p)
      = if EndsInComment engine p then none else some item.inLine := by
  obtain ⟨r, hr, rfl⟩ := Option.map_eq_some_iff.1 h
  have hsign : ∀ rest, p ++ lineEnding ≠ '?' :: rest := by
    intro rest heq
    obtain ⟨rest, rfl⟩ := exists_of_append_eq_cons (by decide) heq
    cases hr
  have hembed : item? engine (Pattern.wholeLine p)
      = (parseFrom engine (p.length + 5) ({} : ParseState).embed (p ++ lineEnding)).map
          fun s => s.level.close := by
    have hlength : (Pattern.wholeLine p).length + 1 = p.length + 5 + 4 := by
      simp [Pattern.wholeLine]
    rw [item?, hlength]
    change Option.map _
      (parseFrom engine (_ + 4) {} ('^' :: '.' :: '*' :: '(' :: (p ++ lineEnding))) = _
    rw [parseFrom_lineStart, readGroup_lineStart hsign]
    rfl
  have halone : item? engine (p ++ lineEnding)
      = (parseFrom engine (p.length + 5) {} (p ++ lineEnding)).map fun s => s.level.close := by
    rw [item?, List.length_append]
    rfl
  obtain ⟨hstack, steps, hsteps, hcloses | hswallows⟩ := closes_or_swallows hr (extends_append p)
  · have hcomment : ¬EndsInComment engine p := by
      rw [EndsInComment, halone, hcloses.alone, h]
      nofun
    obtain ⟨fuel, hfuel⟩ : ∃ fuel, p.length + 5 = steps + (fuel + 4) + 1 :=
      ⟨p.length - steps, by omega⟩
    rw [if_neg hcomment, hembed, hfuel, hcloses.embedded, leave_embed hstack]
  · have hcomment : EndsInComment engine p := by
      obtain ⟨fuel, hfuel⟩ : ∃ fuel, p.length + 5 = steps + fuel + 1 :=
        ⟨p.length + 4 - steps, by omega⟩
      rw [EndsInComment, halone, hfuel, hswallows.alone, h]
      rfl
    rw [if_pos hcomment, hembed, hswallows.embedded]
    rfl

/-- Where both patterns are well-formed, the longer one denotes the expression for the whole line. -/
lemma parse?_wholeLine {p : List Char} {probe whole : Regex} (hprobe : parse? p engine = some probe)
    (hwhole : parse? (Pattern.wholeLine p) engine = some whole) : whole = inLine probe := by
  obtain ⟨item, hitem, -, -, rfl⟩ := parse?_eq_some_iff.1 hprobe
  obtain ⟨line, hline, -, -, rfl⟩ := parse?_eq_some_iff.1 hwhole
  rw [item?_wholeLine hitem] at hline
  split at hline
  · cases hline
  · cases hline
    rfl

end BuildTriage.Regex
