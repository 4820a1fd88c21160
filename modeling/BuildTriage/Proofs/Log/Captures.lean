import BuildTriage.Proofs.Regex.Stretches

/-!
# What a regular expression reports for a line

A pattern `p` is searched for as `^.*(p).*$`. The star before the group is greedy and cannot pass a
line feed, and the one after it cannot either, so the group matches `p` where `p` starts last, of
all its matches without a line feed before or after them. Among those that start there the group has
the one that `p` itself prefers. `Pattern.find?_ofRegex` says this for every pattern and every line,
in terms of the matches of `p` alone, whatever engine accepts the pattern.

The line need not be one: a line feed within it can only be part of what `p` matches.
-/

namespace BuildTriage

open Regex

/-! ## The expression for a whole line -/

namespace Regex

variable {text : List Char}

/-- From a position on, the rest of a line is read to the end of the text if no line ends there. -/
lemma runs_restOfLine_textEnd {i : Nat} (hi : i ≤ text.length) :
    (Regex.cat restOfLine (.assert .textEnd)).runs text i
      = if '\n' ∈ text.drop i then [] else [⟨text.length, []⟩] := by
  have hcat : ∀ i, (Regex.cat restOfLine (.assert .textEnd)).runs text i
      = continued (starRuns text .notNewline true i) ((Regex.assert .textEnd).runs text) := by
    intro i
    rfl
  induction hleft : text.length - i generalizing i with
  | zero =>
    obtain rfl : i = text.length := by omega
    have hend : text[text.length]? = none := List.getElem?_eq_none (Nat.le_refl _)
    rw [hcat, starRuns_eq, hend, List.drop_length]
    simp [runs, Assertion.holds]
  | succ left ih =>
    have hlt : i < text.length := by omega
    have hread : text[i]? = some text[i] := List.getElem?_eq_getElem hlt
    have hdrop : text.drop i = text[i] :: text.drop (i + 1) := List.drop_eq_getElem_cons hlt
    have hhere : continued [⟨i, []⟩] ((Regex.assert .textEnd).runs text) = [] := by
      simp [runs, Assertion.holds, hlt]
    rw [hcat, starRuns_eq, hread, Option.any_some, hdrop]
    by_cases hline : text[i] = '\n'
    · rw [if_neg (by simp [hline, contains_notNewline]), hhere, hline, if_pos List.mem_cons_self]
    · rw [if_pos ((contains_notNewline _).2 hline), if_pos rfl, continued_append, hhere,
        List.append_nil, ← hcat, ih hlt (by omega)]
      have hmem : '\n' ∈ text[i] :: text.drop (i + 1) ↔ '\n' ∈ text.drop (i + 1) := by
        rw [List.mem_cons]
        exact or_iff_right (Ne.symm hline)
      simp only [hmem]

/-- The pattern's group and the rest of the line. -/
def groupToEnd (r : Regex) : Regex :=
  .cat (group 1 r.shift) (.cat restOfLine (.assert .textEnd))

/-- The preferred match of the group and the rest of the line is made by the first match of the
pattern after which no line ends. -/
lemma head?_runs_groupToEnd (r : Regex) {i : Nat} (hi : i ≤ text.length) :
    ((groupToEnd r).runs text i).head?
      = ((r.runs text i).find? fun m => '\n' ∉ text.drop m.stop).map fun m =>
          ⟨text.length, (3, m.stop) :: (shiftMarks m.marks ++ [(2, i)])⟩ := by
  have hgroup : (group 1 r.shift).runs text i = (r.runs text i).map fun m =>
      ⟨m.stop, (3, m.stop) :: (shiftMarks m.marks ++ [(2, i)])⟩ := by
    have hcat : (group 1 r.shift).runs text i = continued [⟨i, [(2, i)]⟩] fun i =>
        continued (r.shift.runs text i) fun i => [⟨i, [(3, i)]⟩] := rfl
    rw [hcat, continued_singleton, runs_shift]
    simp only [continued, List.flatMap_map, List.map_flatMap, List.map_cons, List.map_nil]
    rw [← List.map_eq_flatMap]
    rfl
  have hto : ∀ ms : List Match, (∀ m ∈ ms, m.stop ≤ text.length) →
      (continued (ms.map fun m => ⟨m.stop, (3, m.stop) :: (shiftMarks m.marks ++ [(2, i)])⟩)
        ((Regex.cat restOfLine (.assert .textEnd)).runs text)).head?
        = (ms.find? fun m => '\n' ∉ text.drop m.stop).map fun m =>
            ⟨text.length, (3, m.stop) :: (shiftMarks m.marks ++ [(2, i)])⟩ := by
    intro ms hms
    induction ms with
    | nil => rfl
    | cons m ms ih =>
      obtain ⟨hm, hms⟩ := List.forall_mem_cons.1 hms
      rw [List.map_cons, continued, List.flatMap_cons, ← continued, List.find?_cons,
        runs_restOfLine_textEnd hm]
      by_cases hline : '\n' ∈ text.drop m.stop
      · rw [if_pos hline]
        simp only [hline, not_true, decide_false]
        exact ih hms
      · rw [if_neg hline]
        simp only [hline, not_false_iff, decide_true]
        rfl
  rw [groupToEnd, runs, hgroup]
  exact hto _ fun m hm => (endsWithin_runs text r i hi m hm).2

lemma match?_inLine (r : Regex) (text : List Char) :
    (inLine r).match? text
      = (starRuns text .notNewline true 0).findSome? fun m =>
          (((groupToEnd r).runs text m.stop).map (Match.after m.marks)).head? := by
  have hruns : (inLine r).runs text 0
      = continued [⟨0, []⟩] fun i => continued (starRuns text .notNewline true i)
          ((groupToEnd r).runs text) := rfl
  rw [match?_eq_head?, hruns, continued_singleton, map_after_nil, continued, List.head?_flatMap]

/-- No mark of the pattern is one of the first group of the longer pattern. -/
lemma lookup_shiftMarks {slot : Nat} (hslot : slot = 2 ∨ slot = 3) (marks : List (Nat × Nat)) :
    (shiftMarks marks).lookup slot = none := by
  have hne : ∀ k, slot ≠ shiftSlot k := by
    rintro (_ | _ | k) <;> simp only [shiftSlot] <;> omega
  rw [List.lookup_eq_none_iff]
  intro mark hmark
  obtain ⟨⟨k, i⟩, -, rfl⟩ := List.mem_map.1 hmark
  simpa using hne k

lemma group?_one (n start stop : Nat) (marks : List (Nat × Nat)) :
    (⟨n, (3, stop) :: (shiftMarks marks ++ [(2, start)])⟩ : Match).group? 1
      = some (start, stop) := by
  have hopen : (shiftMarks marks ++ [(2, start)]).lookup 2 = some start := by
    rw [List.lookup_append, lookup_shiftMarks (.inl rfl)]
    rfl
  simp only [Match.group?, List.lookup_cons, hopen]
  rfl

lemma isMatch_of_mem_runs {r : Regex} {i : Nat} (hi : i ≤ text.length) {m : Match}
    (hm : m ∈ r.runs text i) : r.isMatch text = true := by
  have hskip : (⟨i, []⟩ : Match) ∈ skipAny.runs text 0 :=
    (mem_starRuns (Nat.zero_le _)).2 ⟨rfl, Nat.zero_le i, hi, fun c _ => contains_all c⟩
  have hrun : m.after [] ∈ (Regex.cat skipAny r).runs text 0 :=
    List.mem_flatMap.2 ⟨_, hskip, List.mem_map_of_mem hm⟩
  rw [isMatch, match?_eq_head?, List.isSome_head?]
  exact List.ne_nil_of_mem hrun

end Regex

namespace Pattern

/-- The match that starts at `start` has its line to itself: no line feed stands before it and none
after it. -/
def FillsLine (line : List Char) (start : Nat) (m : Match) : Prop :=
  '\n' ∉ line.take start ∧ '\n' ∉ line.drop m.stop

instance (line : List Char) (start : Nat) (m : Match) : Decidable (FillsLine line start m) :=
  inferInstanceAs (Decidable (_ ∧ _))

/-- The match of `probe` that is reported: no other starts later, and of those that start with it
it is the preferred one. -/
structure Reports (probe : Regex) (line : List Char) (start : Nat) (m : Match) : Prop where
  within : start ≤ line.length
  last : ∀ later ≤ line.length, ∀ m' ∈ probe.runs line later, FillsLine line later m' →
    later ≤ start
  preferred : ((probe.runs line start).find? fun m => FillsLine line start m) = some m

variable {probe : Regex} {line : List Char}

lemma Reports.mem {start : Nat} {m : Match} (h : Reports probe line start m) :
    m ∈ probe.runs line start ∧ FillsLine line start m :=
  ⟨List.mem_of_find?_eq_some h.preferred, by simpa using List.find?_some h.preferred⟩

lemma Reports.unique {start start' : Nat} {m m' : Match} (h : Reports probe line start m)
    (h' : Reports probe line start' m') : start = start' ∧ m = m' := by
  have hstart : start = start' :=
    Nat.le_antisymm (h'.last start h.within m h.mem.1 h.mem.2)
      (h.last start' h'.within m' h'.mem.1 h'.mem.2)
  subst hstart
  exact ⟨rfl, Option.some.inj (h.preferred.symm.trans h'.preferred)⟩

/-- The capture is made by the first start for which some match of the pattern is followed by the
rest of the line, where the later starts come first. -/
lemma capture?_inLine (probe : Regex) (line : List Char) :
    capture? (inLine probe) line
      = (starRuns line .notNewline true 0).findSome? fun before =>
          ((probe.runs line before.stop).find? fun m => '\n' ∉ line.drop m.stop).map fun m =>
            slice line before.stop m.stop := by
  have hstarts : ∀ before ∈ starRuns line .notNewline true 0,
      before.marks = [] ∧ before.stop ≤ line.length := by
    intro before hbefore
    obtain ⟨hmarks, -, hstop, -⟩ := (mem_starRuns (Nat.zero_le _)).1 hbefore
    exact ⟨hmarks, hstop⟩
  rw [capture?, match?_inLine]
  generalize starRuns line .notNewline true 0 = starts at hstarts
  induction starts with
  | nil => rfl
  | cons before starts ih =>
    obtain ⟨⟨hmarks, hstop⟩, hstarts⟩ := List.forall_mem_cons.1 hstarts
    rw [List.findSome?_cons, List.findSome?_cons, hmarks, map_after_nil,
      head?_runs_groupToEnd _ hstop]
    cases (probe.runs line before.stop).find? fun m => '\n' ∉ line.drop m.stop with
    | none => exact ih hstarts
    | some m =>
      change ((Match.group? _ 1).bind fun _ => _) = _
      rw [group?_one]
      rfl

lemma mem_starRuns_of_fillsLine {start : Nat} (hstart : start ≤ line.length) {m : Match}
    (hfills : FillsLine line start m) :
    (⟨start, []⟩ : Match) ∈ starRuns line .notNewline true 0 := by
  refine (mem_starRuns (Nat.zero_le _)).2 ⟨rfl, Nat.zero_le _, hstart, fun c hc => ?_⟩
  rw [contains_notNewline]
  rintro rfl
  exact hfills.1 hc

lemma reports_of_capture? {text : String} (h : capture? (inLine probe) line = some text) :
    ∃ start m, Reports probe line start m ∧ text = slice line start m.stop := by
  rw [capture?_inLine] at h
  obtain ⟨starts, before, others, hstarts, hbefore, hnone⟩ := List.findSome?_eq_some_iff.1 h
  obtain ⟨m, hm, rfl⟩ := Option.map_eq_some_iff.1 hbefore
  have hmem : before ∈ starRuns line .notNewline true 0 := by
    rw [hstarts]
    exact List.mem_append_right _ List.mem_cons_self
  obtain ⟨-, -, hstop, hchars⟩ := (mem_starRuns (Nat.zero_le _)).1 hmem
  have htake : '\n' ∉ line.take before.stop := fun hline =>
    (contains_notNewline '\n').1 (hchars '\n' hline) rfl
  refine ⟨before.stop, m, ⟨hstop, ?_, ?_⟩, rfl⟩
  · intro later hlater m' hm' hfills
    have hstart := mem_starRuns_of_fillsLine hlater hfills
    have hsorted := pairwise_starRuns .notNewline (Nat.zero_le line.length)
    rw [hstarts] at hstart hsorted
    rcases List.mem_append.1 hstart with hstart | hstart
    · have hfind := Option.map_eq_none_iff.1 (hnone _ hstart)
      exact absurd hfills.2 (by simpa using List.find?_eq_none.1 hfind m' hm')
    · rcases List.mem_cons.1 hstart with rfl | hstart
      · exact Nat.le_refl _
      · exact Nat.le_of_lt ((List.pairwise_cons.1 (List.pairwise_append.1 hsorted).2.1).1 _ hstart)
  · simpa only [FillsLine, htake, not_false_eq_true, true_and] using hm

lemma isSome_capture? {start : Nat} (hstart : start ≤ line.length) {m : Match}
    (hm : m ∈ probe.runs line start) (hfills : FillsLine line start m) :
    (capture? (inLine probe) line).isSome := by
  rw [capture?_inLine, List.findSome?_isSome_iff]
  refine ⟨_, mem_starRuns_of_fillsLine hstart hfills, ?_⟩
  rw [Option.isSome_map, List.find?_isSome]
  exact ⟨m, hm, by simpa using hfills.2⟩

/-- A counted repetition goes on behind an iteration that read nothing: here the second one takes `a`
where the first takes the empty branch, and that comes before a first one that takes `ab`. -/
example : (ofRegex "Z(|ab|a){0,2}(b|c)").toOption.bind (·.find? "Zababc".toList) = some "Zab" := by
  decide +kernel

/-- Further iterations of a star read something: behind `a` the star takes `b` before it ends. -/
example : (ofRegex "Z(|a|b)*b").toOption.bind (·.find? "Zabb".toList) = some "Zabb" := by
  decide +kernel

end Pattern

end BuildTriage
