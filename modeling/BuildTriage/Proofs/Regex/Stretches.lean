import BuildTriage.Proofs.Regex.Pass
import BuildTriage.Proofs.Regex.WholeLine

/-!
# Matches of stars, and of an expression inside a longer one

Any number of characters of a set is matched wherever characters of the set alone stand, and a
greedy star prefers the later ends (`mem_starRuns`, `pairwise_starRuns`). An expression whose groups
are numbered differently has the same matches with other marks (`runs_shift`).
-/

namespace BuildTriage.Regex

variable {text : List Char}

/-! ## Repeated characters -/

/-- The matches of any number of characters of a set. -/
abbrev starRuns (text : List Char) (set : CharSet) (greedy : Bool) (i : Nat) : List Match :=
  (Regex.rep (.chars set) 0 none greedy).runs text i

lemma starRuns_eq (text : List Char) (set : CharSet) (greedy : Bool) (i : Nat) :
    starRuns text set greedy i
      = if text[i]?.any set.contains then
          if greedy then starRuns text set greedy (i + 1) ++ [⟨i, []⟩]
          else ⟨i, []⟩ :: starRuns text set greedy (i + 1)
        else [⟨i, []⟩] := by
  have honce : advanced text.length i false ((Regex.chars set).runs text i)
        (starRuns text set greedy)
      = if text[i]?.any set.contains then starRuns text set greedy (i + 1) else [] := by
    rw [runs]
    split
    · next hread =>
      have hstop : i < i + 1 ∧ i + 1 ≤ text.length :=
        ⟨Nat.lt_succ_self i, lt_length_of_any hread⟩
      rw [advanced, List.flatMap_singleton, if_pos hstop, map_after_nil]
    · rfl
  have hstar : ∀ j, starRuns text set greedy j
      = furtherRuns ((Regex.chars set).runs text) text.length greedy j := by
    intro j
    rw [starRuns, runs, repeatedRuns]
  rw [hstar, furtherRuns_eq, ← funext hstar, honce, optionalRuns]
  split <;> split <;> rfl

/-- Any number of characters of a set ends wherever characters of the set alone stand before. -/
lemma mem_starRuns {set : CharSet} {greedy : Bool} {i : Nat} (hi : i ≤ text.length) {m : Match} :
    m ∈ starRuns text set greedy i ↔ m.marks = [] ∧ i ≤ m.stop ∧ m.stop ≤ text.length ∧
      ∀ c ∈ (text.drop i).take (m.stop - i), set.contains c = true := by
  induction hleft : text.length - i generalizing i with
  | zero =>
    have hend : text[i]? = none := List.getElem?_eq_none (by omega)
    rw [starRuns_eq, hend]
    obtain ⟨stop, marks⟩ := m
    simp only [Option.any_none, Bool.false_eq_true, if_false, List.mem_singleton, Match.mk.injEq]
    constructor
    · rintro ⟨rfl, rfl⟩
      simp [hi]
    · rintro ⟨rfl, hlow, hhigh, -⟩
      exact ⟨by omega, rfl⟩
  | succ left ih =>
    have hlt : i < text.length := by omega
    have hread : text[i]? = some text[i] := List.getElem?_eq_getElem hlt
    have hdrop : text.drop i = text[i] :: text.drop (i + 1) := List.drop_eq_getElem_cons hlt
    have hstep : m ∈ starRuns text set greedy i ↔
        (set.contains text[i] = true ∧ m ∈ starRuns text set greedy (i + 1)) ∨ m = ⟨i, []⟩ := by
      rw [starRuns_eq, hread, Option.any_some]
      cases set.contains text[i] <;> cases greedy <;> simp [or_comm]
    rw [hstep, ih hlt (by omega)]
    constructor
    · rintro (⟨hfirst, hmarks, hlow, hhigh, hall⟩ | rfl)
      · have htake : m.stop - i = m.stop - (i + 1) + 1 := by omega
        refine ⟨hmarks, by omega, hhigh, ?_⟩
        rw [hdrop, htake, List.take_succ_cons]
        exact List.forall_mem_cons.2 ⟨hfirst, hall⟩
      · simp [hi]
    · rintro ⟨hmarks, hlow, hhigh, hall⟩
      rcases Nat.eq_or_lt_of_le hlow with hstop | hstop
      · right
        obtain ⟨stop, marks⟩ := m
        rw [Match.mk.injEq]
        exact ⟨hstop.symm, hmarks⟩
      · left
        have htake : m.stop - i = m.stop - (i + 1) + 1 := by omega
        rw [hdrop, htake, List.take_succ_cons] at hall
        obtain ⟨hfirst, hall⟩ := List.forall_mem_cons.1 hall
        exact ⟨hfirst, hmarks, hstop, hhigh, hall⟩

/-- A greedy star prefers the later ends. -/
lemma pairwise_starRuns (set : CharSet) {i : Nat} (hi : i ≤ text.length) :
    (starRuns text set true i).Pairwise fun m m' => m'.stop < m.stop := by
  induction hleft : text.length - i generalizing i with
  | zero =>
    have hend : text[i]? = none := List.getElem?_eq_none (by omega)
    rw [starRuns_eq, hend]
    exact List.pairwise_singleton _ _
  | succ left ih =>
    rw [starRuns_eq]
    split
    · have hlt : i < text.length := by omega
      refine List.pairwise_append.2 ⟨ih hlt (by omega), List.pairwise_singleton _ _, ?_⟩
      intro m hm m' hm'
      rw [List.mem_singleton.1 hm']
      exact ((mem_starRuns hlt).1 hm).2.1
    · exact List.pairwise_singleton _ _

lemma toNat_le (c : Char) : c.toNat ≤ 0x10FFFF := by
  rcases c.valid with hlow | ⟨-, hhigh⟩
  · exact Nat.le_trans (Nat.le_of_lt hlow) (by decide)
  · exact Nat.le_of_lt_succ hhigh

lemma contains_notNewline (c : Char) : CharSet.notNewline.contains c = true ↔ c ≠ '\n' := by
  have hchar : c = '\n' ↔ c.toNat = 10 := by
    rw [← Char.toNat_inj]
    rfl
  have hlast := toNat_le c
  simp only [CharSet.contains, CharSet.notNewline, Text.inRanges, List.any_cons, List.any_nil,
    Bool.or_false, Bool.or_eq_true, Bool.and_eq_true, decide_eq_true_eq, ne_eq, hchar]
  omega

lemma contains_all (c : Char) : CharSet.all.contains c = true := by
  have hlast := toNat_le c
  simp only [CharSet.contains, CharSet.all, Text.inRanges, List.any_cons, List.any_nil,
    Bool.or_false, Bool.and_eq_true, decide_eq_true_eq]
  omega

/-! ## Shifted marks -/

/-- The marks of every group, shifted. -/
def shiftMarks (marks : List (Nat × Nat)) : List (Nat × Nat) :=
  marks.map fun mark => (shiftSlot mark.1, mark.2)

/-- The match with its marks shifted. -/
def Match.shift (m : Match) : Match :=
  ⟨m.stop, shiftMarks m.marks⟩

@[simp] lemma Match.stop_shift (m : Match) : m.shift.stop = m.stop :=
  rfl

lemma map_shift_map_after (ms : List Match) (marks : List (Nat × Nat)) :
    (ms.map (Match.after marks)).map Match.shift
      = (ms.map Match.shift).map (Match.after (shiftMarks marks)) := by
  simp [Match.after, Match.shift, shiftMarks]

lemma continued_map_shift (ms : List Match) (next : Nat → List Match) :
    continued (ms.map Match.shift) (fun i => (next i).map Match.shift)
      = (continued ms next).map Match.shift := by
  simp only [continued, List.flatMap_map, List.map_flatMap, map_shift_map_after]
  rfl

lemma optionalRuns_map_shift (greedy : Bool) (i : Nat) (ms : List Match) :
    optionalRuns greedy i (ms.map Match.shift) = (optionalRuns greedy i ms).map Match.shift := by
  rw [optionalRuns, optionalRuns]
  split
  · rw [List.map_append]
    rfl
  · rfl

lemma boundedRuns_map_shift (once : Nat → List Match) (greedy : Bool) (max i : Nat) :
    boundedRuns (fun i => (once i).map Match.shift) greedy max i
      = (boundedRuns once greedy max i).map Match.shift := by
  induction max generalizing i with
  | zero => rfl
  | succ max ih =>
    rw [boundedRuns, boundedRuns, ← optionalRuns_map_shift, ← continued_map_shift, funext ih]

lemma advanced_map_shift {n i : Nat} (idle : Bool) (ms : List Match) {next next' : Nat → List Match}
    (hnext : ∀ j, i < j → j ≤ n → next' j = (next j).map Match.shift) :
    advanced n i idle (ms.map Match.shift) next' = (advanced n i idle ms next).map Match.shift := by
  simp only [advanced, List.flatMap_map, List.map_flatMap]
  refine List.flatMap_congr fun m _ => ?_
  rw [Match.stop_shift]
  split
  · next hstop =>
    rw [hnext m.stop hstop.1 hstop.2, map_shift_map_after]
    rfl
  · cases idle <;> rfl

lemma furtherRuns_map_shift (once : Nat → List Match) (n : Nat) (greedy : Bool) (i : Nat) :
    furtherRuns (fun i => (once i).map Match.shift) n greedy i
      = (furtherRuns once n greedy i).map Match.shift := by
  induction hleft : n - i using Nat.strongRecOn generalizing i with
  | _ left ih =>
  have hnext : ∀ j, i < j → j ≤ n → furtherRuns (fun i => (once i).map Match.shift) n greedy j
      = (furtherRuns once n greedy j).map Match.shift := by
    intro j hlow hhigh
    exact ih (n - j) (by omega) j rfl
  rw [furtherRuns_eq, furtherRuns_eq, advanced_map_shift false _ hnext, optionalRuns_map_shift]

lemma repeatedRuns_map_shift (once : Nat → List Match) (n : Nat) (greedy : Bool) (min : Nat)
    (max : Option Nat) (i : Nat) :
    repeatedRuns (fun i => (once i).map Match.shift) n greedy min max i
      = (repeatedRuns once n greedy min max i).map Match.shift := by
  induction min generalizing max i with
  | zero =>
    cases max with
    | some max => exact boundedRuns_map_shift once greedy max i
    | none => exact furtherRuns_map_shift once n greedy i
  | succ min ih =>
    rw [repeatedRuns, repeatedRuns]
    split
    · exact advanced_map_shift true _ fun j _ _ => ih _ j
    · rw [← continued_map_shift, funext (ih _)]

/-- The matches of a shifted expression are those of the expression, with their marks shifted. -/
lemma runs_shift (text : List Char) (r : Regex) (i : Nat) :
    r.shift.runs text i = (r.runs text i).map Match.shift := by
  induction r generalizing i with
  | empty => rfl
  | mark slot => rfl
  | chars set =>
    change (Regex.chars set).runs text i = _
    rw [runs]
    split <;> rfl
  | assert a =>
    change (Regex.assert a).runs text i = _
    rw [runs]
    split <;> rfl
  | cat a b iha ihb => rw [shift, runs, runs, ← continued_map_shift, iha, funext ihb]
  | alt a b iha ihb => rw [shift, runs, runs, List.map_append, iha, ihb]
  | rep body min max greedy ih => rw [shift, runs, runs, ← repeatedRuns_map_shift, funext ih]

end BuildTriage.Regex
