import BuildTriage.Regex.Match
import Mathlib.Data.List.Basic
import Mathlib.Tactic.Lemma

/-!
# Matches in order of preference

An expression matches from a position in a text in several ways, and a search that tries one after
the other meets them in a certain order: the first branch of a choice before the second, another
iteration of a greedy repetition before its end, and the other way round for a lazy one. Iterations
that a bound allows are options within one another, as if `x{0,2}` were written `(x(x)?)?`. Without
a bound none follows a required iteration that reads nothing, and further iterations read something.
`runs` lists the matches in this order; the preferred match is the first one.

The steps that an expression offers at a position say the same (`prefersSame_stepsRuns`), up to
matches that end where an earlier one ends: no step is offered twice there, and neither is
acceptance. Two lists that differ in such matches alone prefer the same match whatever is asked of
its end (`PrefersSame`).
-/

namespace BuildTriage.Regex

/-! ## The matches -/

/-- The character before a position. -/
def before? (text : List Char) : Nat → Option Char
  | 0 => none
  | i + 1 => text[i]?

/-- The match, where marks were passed before it. -/
def Match.after (marks : List (Nat × Nat)) (m : Match) : Match :=
  ⟨m.stop, m.marks ++ marks⟩

/-- The matches, each continued from where it ends. -/
def continued (ms : List Match) (next : Nat → List Match) : List Match :=
  ms.flatMap fun m => (next m.stop).map (Match.after m.marks)

/-- The matches from the position `i` of something that may be left out. To leave it out comes last
if `greedy`, and first otherwise. -/
def optionalRuns (greedy : Bool) (i : Nat) (ms : List Match) : List Match :=
  if greedy then ms ++ [⟨i, []⟩] else ⟨i, []⟩ :: ms

/-- The matches of at most `max` iterations, where `once` gives those of one iteration. Each
iteration may be left out together with those after it. -/
def boundedRuns (once : Nat → List Match) (greedy : Bool) : (max : Nat) → Nat → List Match
  | 0, i => [⟨i, []⟩]
  | max + 1, i => optionalRuns greedy i (continued (once i) (boundedRuns once greedy max))

/-- The matches, each continued from where it ends if that is past the position `i`. The others are
kept as they are if `idle`, and left out otherwise. -/
def advanced (n i : Nat) (idle : Bool) (ms : List Match) (next : Nat → List Match) : List Match :=
  ms.flatMap fun m =>
    if i < m.stop ∧ m.stop ≤ n then (next m.stop).map (Match.after m.marks)
    else if idle then [m] else []

/-- The matches of any number of further iterations in a text of length `n`, each of which reads
something. -/
def furtherRuns (once : Nat → List Match) (n : Nat) (greedy : Bool) (i : Nat) : List Match :=
  optionalRuns greedy i <| (once i).flatMap fun m =>
    if i < m.stop ∧ m.stop ≤ n then
      (furtherRuns once n greedy m.stop).map (Match.after m.marks)
    else []
termination_by n - i

/-- The matches of at least `min` iterations and at most `max`. -/
def repeatedRuns (once : Nat → List Match) (n : Nat) (greedy : Bool) :
    (min : Nat) → (max : Option Nat) → Nat → List Match
  | 0, some max, i => boundedRuns once greedy max i
  | 0, none, i => furtherRuns once n greedy i
  | min + 1, max, i =>
    let more := repeatedRuns once n greedy min (max.map (· - 1))
    if min = 0 ∧ max = none then advanced n i true (once i) more else continued (once i) more

/-- The matches of an expression from a position in a text, in order of preference. -/
def runs (text : List Char) : Regex → Nat → List Match
  | .empty, i => [⟨i, []⟩]
  | .chars set, i => if text[i]?.any set.contains then [⟨i + 1, []⟩] else []
  | .assert a, i => if a.holds (before? text i) text[i]? then [⟨i, []⟩] else []
  | .mark slot, i => [⟨i, [(slot, i)]⟩]
  | .cat a b, i => continued (runs text a i) (runs text b)
  | .alt a b, i => runs text a i ++ runs text b i
  | .rep body min max greedy, i => repeatedRuns (runs text body) text.length greedy min max i

/-! ## Continued matches -/

@[simp] lemma Match.after_nil (m : Match) : m.after [] = m := by
  simp [Match.after]

@[simp] lemma Match.stop_after (m : Match) (marks : List (Nat × Nat)) :
    (m.after marks).stop = m.stop :=
  rfl

@[simp] lemma Match.after_mk (i : Nat) (marks more : List (Nat × Nat)) :
    (⟨i, more⟩ : Match).after marks = ⟨i, more ++ marks⟩ :=
  rfl

lemma continued_append (ms more : List Match) (next : Nat → List Match) :
    continued (ms ++ more) next = continued ms next ++ continued more next :=
  List.flatMap_append

@[simp] lemma continued_singleton (m : Match) (next : Nat → List Match) :
    continued [m] next = (next m.stop).map (Match.after m.marks) :=
  List.flatMap_singleton _ m

@[simp] lemma map_after_nil (ms : List Match) : ms.map (Match.after []) = ms :=
  List.map_id'' Match.after_nil ms

@[simp] lemma map_after_map_after (ms : List Match) (marks more : List (Nat × Nat)) :
    (ms.map (Match.after more)).map (Match.after marks) = ms.map (Match.after (more ++ marks)) := by
  simp [Match.after, Function.comp_def]

lemma continued_map_after (marks : List (Nat × Nat)) (ms : List Match) (next : Nat → List Match) :
    continued (ms.map (Match.after marks)) next = (continued ms next).map (Match.after marks) := by
  simp only [continued, List.flatMap_map, List.map_flatMap, map_after_map_after]
  rfl

lemma runs_seq (text : List Char) (a b : Regex) (i : Nat) :
    (a.seq b).runs text i = continued (a.runs text i) (b.runs text) := by
  unfold seq
  split
  · simp [runs]
  · rfl

lemma advanced_append (n i : Nat) (idle : Bool) (ms more : List Match) (next : Nat → List Match) :
    advanced n i idle (ms ++ more) next = advanced n i idle ms next ++ advanced n i idle more next :=
  List.flatMap_append

lemma furtherRuns_eq (once : Nat → List Match) (n : Nat) (greedy : Bool) (i : Nat) :
    furtherRuns once n greedy i
      = optionalRuns greedy i (advanced n i false (once i) (furtherRuns once n greedy)) := by
  rw [furtherRuns]
  rfl

/-! ## Where matches end -/

/-- The matches from positions of a text of length `n` end between their start and the end of the
text. -/
def EndsWithin (n : Nat) (next : Nat → List Match) : Prop :=
  ∀ i ≤ n, ∀ m ∈ next i, i ≤ m.stop ∧ m.stop ≤ n

lemma EndsWithin.continued {n : Nat} {first next : Nat → List Match} (hfirst : EndsWithin n first)
    (hnext : EndsWithin n next) : EndsWithin n fun i => continued (first i) next := by
  intro i hi m hm
  obtain ⟨a, ha, hm⟩ := List.mem_flatMap.1 hm
  obtain ⟨b, hb, rfl⟩ := List.mem_map.1 hm
  obtain ⟨hlow, hhigh⟩ := hfirst i hi a ha
  obtain ⟨hlow', hhigh'⟩ := hnext a.stop hhigh b hb
  exact ⟨Nat.le_trans hlow hlow', hhigh'⟩

lemma forall_mem_optionalRuns {greedy : Bool} {i : Nat} {ms : List Match} {P : Match → Prop}
    (hstay : P ⟨i, []⟩) (hms : ∀ m ∈ ms, P m) : ∀ m ∈ optionalRuns greedy i ms, P m := by
  rw [optionalRuns]
  split
  · exact List.forall_mem_append.2 ⟨hms, by simpa using hstay⟩
  · exact List.forall_mem_cons.2 ⟨hstay, hms⟩

lemma EndsWithin.boundedRuns {n : Nat} {once : Nat → List Match} (honce : EndsWithin n once)
    (greedy : Bool) (max : Nat) : EndsWithin n (boundedRuns once greedy max) := by
  induction max with
  | zero =>
    intro i hi
    simpa [Regex.boundedRuns] using hi
  | succ max ih =>
    intro i hi
    exact forall_mem_optionalRuns ⟨Nat.le_refl i, hi⟩ (honce.continued ih i hi)

lemma endsWithin_advanced {n i : Nat} {ms : List Match} {next : Nat → List Match}
    (hms : ∀ m ∈ ms, i ≤ m.stop ∧ m.stop ≤ n)
    (hnext : ∀ j, i < j → j ≤ n → ∀ m ∈ next j, j ≤ m.stop ∧ m.stop ≤ n) (idle : Bool) :
    ∀ m ∈ advanced n i idle ms next, i ≤ m.stop ∧ m.stop ≤ n := by
  intro m hm
  obtain ⟨a, ha, hm⟩ := List.mem_flatMap.1 hm
  split at hm
  · next hstop =>
    obtain ⟨b, hb, rfl⟩ := List.mem_map.1 hm
    obtain ⟨hlow, hhigh⟩ := hnext a.stop hstop.1 hstop.2 b hb
    exact ⟨Nat.le_trans (Nat.le_of_lt hstop.1) hlow, hhigh⟩
  · split at hm
    · rw [List.mem_singleton.1 hm]
      exact hms a ha
    · cases hm

lemma EndsWithin.furtherRuns {n : Nat} {once : Nat → List Match} (honce : EndsWithin n once)
    (greedy : Bool) : EndsWithin n (furtherRuns once n greedy) := by
  intro i hi
  induction hleft : n - i using Nat.strongRecOn generalizing i with
  | _ left ih =>
  rw [furtherRuns_eq]
  refine forall_mem_optionalRuns ⟨Nat.le_refl i, hi⟩ (endsWithin_advanced (honce i hi) ?_ false)
  intro j hlow hhigh
  exact ih (n - j) (by omega) j hhigh rfl

lemma EndsWithin.repeatedRuns {n : Nat} {once : Nat → List Match} (honce : EndsWithin n once)
    (greedy : Bool) (min : Nat) (max : Option Nat) :
    EndsWithin n (repeatedRuns once n greedy min max) := by
  induction min generalizing max with
  | zero =>
    cases max with
    | some max => exact honce.boundedRuns greedy max
    | none => exact honce.furtherRuns greedy
  | succ min ih =>
    intro i hi
    rw [Regex.repeatedRuns]
    split
    · exact endsWithin_advanced (honce i hi) (fun j _ hj => ih _ j hj) true
    · exact honce.continued (ih _) i hi

lemma lt_length_of_any {text : List Char} {i : Nat} {p : Char → Bool}
    (h : text[i]?.any p = true) : i < text.length := by
  by_contra hge
  rw [List.getElem?_eq_none (by omega)] at h
  cases h

lemma endsWithin_runs (text : List Char) (r : Regex) : EndsWithin text.length (r.runs text) := by
  induction r with
  | empty | mark =>
    intro i hi
    simpa [runs] using hi
  | chars set =>
    intro i hi m hm
    rw [runs] at hm
    split at hm
    · next hread =>
      have hlt := lt_length_of_any hread
      rw [List.mem_singleton.1 hm]
      exact ⟨Nat.le_succ i, hlt⟩
    · cases hm
  | assert a =>
    intro i hi m hm
    rw [runs] at hm
    split at hm
    · rw [List.mem_singleton.1 hm]
      exact ⟨Nat.le_refl i, hi⟩
    · cases hm
  | cat a b iha ihb => exact iha.continued ihb
  | alt a b iha ihb => exact fun i hi => List.forall_mem_append.2 ⟨iha i hi, ihb i hi⟩
  | rep body min max greedy ih => exact ih.repeatedRuns greedy min max

/-! ## Preference by where a match ends -/

/-- Whatever is asked of the end of a match, the two lists have the same first match with such an
end. -/
def PrefersSame (ms ms' : List Match) : Prop :=
  ∀ p : Nat → Bool, ms.find? (fun m => p m.stop) = ms'.find? fun m => p m.stop

namespace PrefersSame

variable {ms ms' more more' : List Match}

lemma of_eq (h : ms = ms') : PrefersSame ms ms' :=
  fun _ => h ▸ rfl

lemma refl (ms : List Match) : PrefersSame ms ms :=
  of_eq rfl

lemma symm (h : PrefersSame ms ms') : PrefersSame ms' ms :=
  fun p => (h p).symm

lemma trans (h : PrefersSame ms ms') (h' : PrefersSame ms' more) : PrefersSame ms more :=
  fun p => (h p).trans (h' p)

lemma append (h : PrefersSame ms ms') (hmore : PrefersSame more more') :
    PrefersSame (ms ++ more) (ms' ++ more') := by
  intro p
  rw [List.find?_append, List.find?_append, h p, hmore p]

/-- The preferred match is the same. -/
lemma head?_eq (h : PrefersSame ms ms') : ms.head? = ms'.head? := by
  have hfirst : ∀ ms : List Match, ms.find? (fun _ => true) = ms.head? := by
    rintro (_ | _) <;> rfl
  rw [← hfirst, ← hfirst]
  exact h fun _ => true

lemma map_after (h : PrefersSame ms ms') (marks : List (Nat × Nat)) :
    PrefersSame (ms.map (Match.after marks)) (ms'.map (Match.after marks)) := by
  intro p
  have hp := h p
  simp only [List.find?_map, Function.comp_def, Match.stop_after, hp]

/-- Each match may be replaced by a list, as long as what can be found in the list depends on where
the match ends alone. -/
lemma flatMap (h : PrefersSame ms ms') {f g : Match → List Match}
    (hfg : ∀ m, PrefersSame (f m) (g m))
    (hstop : ∀ (p : Nat → Bool) m m', m.stop = m'.stop →
      ((g m).find? fun m => p m.stop).isSome = ((g m').find? fun m => p m.stop).isSome) :
    PrefersSame (ms.flatMap f) (ms'.flatMap g) := by
  intro p
  have hfind : ∀ xs : List Match, (xs.flatMap g).find? (fun m => p m.stop)
      = (xs.find? fun m => ((g ⟨m.stop, []⟩).find? fun m => p m.stop).isSome).bind
          fun m => (g m).find? fun m => p m.stop := by
    intro xs
    induction xs with
    | nil => rfl
    | cons m xs ih =>
      rw [List.flatMap_cons, List.find?_append, ih, List.find?_cons, ← hstop p m ⟨m.stop, []⟩ rfl]
      cases hm : (g m).find? fun m => p m.stop <;> simp [hm]
  have hsame : ∀ xs : List Match,
      (xs.flatMap f).find? (fun m => p m.stop) = (xs.flatMap g).find? fun m => p m.stop := by
    intro xs
    induction xs with
    | nil => rfl
    | cons m xs ih =>
      rw [List.flatMap_cons, List.flatMap_cons, List.find?_append, List.find?_append, hfg m p, ih]
  rw [hsame, hfind, hfind, h fun stop => ((g ⟨stop, []⟩).find? fun m => p m.stop).isSome]

lemma continued (h : PrefersSame ms ms') {f g : Nat → List Match}
    (hfg : ∀ i, PrefersSame (f i) (g i)) :
    PrefersSame (Regex.continued ms f) (Regex.continued ms' g) := by
  refine h.flatMap (fun m => (hfg m.stop).map_after m.marks) fun p m m' hstop => ?_
  simp [List.find?_map, Function.comp_def, hstop]

lemma advanced (h : PrefersSame ms ms') (n i : Nat) (idle : Bool) (next : Nat → List Match) :
    PrefersSame (Regex.advanced n i idle ms next) (Regex.advanced n i idle ms' next) := by
  refine h.flatMap (fun m => refl _) fun p m m' hstop => ?_
  rw [hstop]
  split
  · simp [List.find?_map, Function.comp_def]
  · cases idle with
    | false => rfl
    | true =>
      simp only [if_true, List.find?_singleton, hstop]
      split <;> rfl

/-- Lists of matches may be left out whose matches all end where an earlier one ends. -/
lemma filter {α : Type} (ms : List Match) (f : α → List Match) {xs : List α} {keep : α → Bool}
    (h : ∀ x ∈ xs, keep x = false → ∀ m ∈ f x, ∃ m' ∈ ms, m'.stop = m.stop) :
    PrefersSame (ms ++ (xs.filter keep).flatMap f) (ms ++ xs.flatMap f) := by
  intro p
  rw [List.find?_append, List.find?_append]
  cases hfound : ms.find? fun m => p m.stop with
  | some m => rfl
  | none =>
    have hdrop : ∀ x ∈ xs, keep x = false → (f x).find? (fun m => p m.stop) = none := by
      intro x hx hkeep
      refine List.find?_eq_none.2 fun m hm => ?_
      obtain ⟨m', hm', hstop⟩ := h x hx hkeep m hm
      exact hstop ▸ List.find?_eq_none.1 hfound m' hm'
    clear h
    refine congrArg _ ?_
    induction xs with
    | nil => rfl
    | cons x xs ih =>
      have hrest := ih fun y hy => hdrop y (List.mem_cons_of_mem x hy)
      cases hkeep : keep x with
      | true =>
        rw [List.filter_cons_of_pos hkeep, List.flatMap_cons, List.flatMap_cons, List.find?_append,
          List.find?_append, hrest]
      | false =>
        rw [List.filter_cons_of_neg (by simp [hkeep]), List.flatMap_cons, List.find?_append,
          hdrop x List.mem_cons_self hkeep, hrest, Option.none_or]

end PrefersSame

/-! ## Steps -/

/-- The matches that begin with a step at the position `i`. -/
def Step.runs (text : List Char) (i : Nat) : Step → List Match
  | accept ms => [⟨i, addMarks i ms []⟩]
  | read ms set next =>
    if text[i]?.any set.contains then
      (next.runs text (i + 1)).map (Match.after (addMarks i ms []))
    else []

/-- The matches that begin with one of the steps. -/
def stepsRuns (text : List Char) (i : Nat) (offers : List Step) : List Match :=
  offers.flatMap (Step.runs text i)

lemma addMarks_eq_append (i : Nat) (slots : List Nat) (marks : List (Nat × Nat)) :
    addMarks i slots marks = addMarks i slots [] ++ marks := by
  induction slots generalizing marks with
  | nil => rfl
  | cons slot slots ih =>
    have hone := ih [(slot, i)]
    have hmore := ih ((slot, i) :: marks)
    simp only [addMarks, List.foldl_cons] at hone hmore ⊢
    rw [hmore, hone]
    simp

lemma addMarks_append (i : Nat) (slots more : List Nat) (marks : List (Nat × Nat)) :
    addMarks i (slots ++ more) marks = addMarks i more [] ++ addMarks i slots marks := by
  rw [addMarks, List.foldl_append, ← addMarks, ← addMarks, addMarks_eq_append]

lemma Step.runs_after (text : List Char) (i : Nat) (slots : List Nat) (step : Step) :
    (step.after slots).runs text i
      = (step.runs text i).map (Match.after (addMarks i slots [])) := by
  cases step with
  | accept ms => simp [Step.after, Step.runs, addMarks_append]
  | read ms set next =>
    simp only [Step.after, Step.runs]
    split
    · rw [map_after_map_after, addMarks_append]
    · rfl

lemma stepsRuns_cons (text : List Char) (i : Nat) (step : Step) (offers : List Step) :
    stepsRuns text i (step :: offers) = step.runs text i ++ stepsRuns text i offers :=
  List.flatMap_cons

lemma stepsRuns_append (text : List Char) (i : Nat) (offers more : List Step) :
    stepsRuns text i (offers ++ more) = stepsRuns text i offers ++ stepsRuns text i more :=
  List.flatMap_append

lemma stepsRuns_map_after (text : List Char) (i : Nat) (slots : List Nat) (offers : List Step) :
    stepsRuns text i (offers.map (Step.after slots))
      = (stepsRuns text i offers).map (Match.after (addMarks i slots [])) := by
  simp only [stepsRuns, List.flatMap_map, List.map_flatMap, Step.runs_after]

/-- Where an earlier step accepts, acceptance need not be offered again. -/
lemma prefersSame_stepsRuns_join (text : List Char) (i : Nat) (xs ys : List Step) :
    PrefersSame (stepsRuns text i (Step.join xs ys))
      (stepsRuns text i xs ++ stepsRuns text i ys) := by
  rw [Step.join, stepsRuns_append]
  split
  · next haccept =>
    refine PrefersSame.filter _ _ fun step _ hkeep m hm => ?_
    obtain ⟨first, hfirst, hfirstAccept⟩ := List.any_eq_true.1 haccept
    cases step with
    | read => cases hkeep
    | accept ms =>
      cases first with
      | read => cases hfirstAccept
      | accept ms' =>
        rw [List.mem_singleton.1 hm]
        exact ⟨_, List.mem_flatMap.2 ⟨_, hfirst, List.mem_singleton_self _⟩, rfl⟩
  · exact PrefersSame.refl _

/-- The steps of a sequence stand for the matches of its first part, continued by those of its
second. -/
lemma prefersSame_stepsRuns_followedBy {text : List Char} {i : Nat} {offers then_ : List Step}
    {b : Regex} (h : offers.any Step.isAccept = true →
      PrefersSame (stepsRuns text i then_) (b.runs text i)) :
    PrefersSame (stepsRuns text i (offers.flatMap (Step.followedBy b then_)))
      (continued (stepsRuns text i offers) (b.runs text)) := by
  induction offers with
  | nil => exact PrefersSame.refl _
  | cons step offers ih =>
    have hrest := ih fun haccept => h (by simp [haccept])
    have hstep : PrefersSame (stepsRuns text i (Step.followedBy b then_ step))
        (continued (step.runs text i) (b.runs text)) := by
      cases step with
      | accept ms =>
        rw [Step.followedBy, stepsRuns_map_after, Step.runs, continued_singleton]
        exact (h (by simp [Step.isAccept])).map_after _
      | read ms set next =>
        refine PrefersSame.of_eq ?_
        rw [Step.followedBy, stepsRuns, List.flatMap_singleton, Step.runs, Step.runs]
        split
        · rw [continued_map_after, runs_seq]
        · rfl
    rw [List.flatMap_cons, stepsRuns_append]
    exact (hstep.append hrest).trans (PrefersSame.of_eq (continued_append _ _ _).symm)

/-- The steps of something that may be left out stand for its matches and for leaving it out. -/
lemma prefersSame_stepsRuns_optional {text : List Char} {i : Nat} {offers : List Step}
    {ms : List Match} (h : PrefersSame (stepsRuns text i offers) ms) (greedy : Bool) :
    PrefersSame (stepsRuns text i (Step.optional greedy offers)) (optionalRuns greedy i ms) := by
  have hstay : PrefersSame (stepsRuns text i [.accept []]) [⟨i, []⟩] := PrefersSame.refl _
  rw [Step.optional, optionalRuns]
  split
  · exact (prefersSame_stepsRuns_join text i _ _).trans (h.append hstay)
  · exact (prefersSame_stepsRuns_join text i _ _).trans (hstay.append h)

/-- The steps of an iteration and of further ones stand for its matches, each continued if it has
read something, where what is offered behind acceptance is acceptance or nothing. -/
lemma stepsRuns_advance {text : List Char} {i : Nat} (offers : List Step) (body : Regex)
    (greedy idle : Bool) :
    stepsRuns text i (offers.flatMap
        (Step.followedBy (.rep body 0 none greedy) (if idle then [.accept []] else [])))
      = advanced text.length i idle (stepsRuns text i offers)
          ((Regex.rep body 0 none greedy).runs text) := by
  induction offers with
  | nil => rfl
  | cons step offers ih =>
    rw [List.flatMap_cons, stepsRuns_append, ih, stepsRuns_cons, advanced_append]
    refine congrArg (· ++ _) ?_
    cases step with
    | accept ms =>
      cases idle <;> simp [Step.followedBy, Step.after, Step.runs, stepsRuns, advanced]
    | read ms set next =>
      simp only [Step.followedBy, stepsRuns, List.flatMap_singleton, Step.runs, runs_seq]
      split
      · next hread =>
        have hlt := lt_length_of_any hread
        rw [← continued_map_after, continued]
        refine List.flatMap_congr fun m hm => ?_
        obtain ⟨n, hn, rfl⟩ := List.mem_map.1 hm
        have hn := endsWithin_runs text next (i + 1) hlt n hn
        rw [if_pos ⟨by simp only [Match.stop_after]; omega, hn.2⟩]
      · rfl

section Repetition

variable {text : List Char} {body : Regex} {i : Nat} {offers : List Step}

lemma prefersSame_stepsRuns_boundedSteps
    (h : PrefersSame (stepsRuns text i offers) (body.runs text i)) (greedy : Bool) (max : Nat) :
    PrefersSame (stepsRuns text i (boundedSteps body offers greedy max))
      (boundedRuns (body.runs text) greedy max i) := by
  induction max with
  | zero => exact PrefersSame.refl _
  | succ max ih =>
    refine prefersSame_stepsRuns_optional ?_ greedy
    refine (prefersSame_stepsRuns_followedBy fun haccept => ?_).trans
      (h.continued fun _ => PrefersSame.refl _)
    rw [if_pos haccept]
    exact ih

lemma prefersSame_stepsRuns_furtherSteps
    (h : PrefersSame (stepsRuns text i offers) (body.runs text i)) (greedy : Bool) :
    PrefersSame (stepsRuns text i (furtherSteps body offers greedy))
      (furtherRuns (body.runs text) text.length greedy i) := by
  rw [furtherRuns_eq]
  refine prefersSame_stepsRuns_optional ?_ greedy
  exact (PrefersSame.of_eq (stepsRuns_advance offers body greedy false)).trans
    (h.advanced text.length i false _)

/-- The steps of a repetition stand for its matches if those of its body do. -/
lemma prefersSame_stepsRuns_repSteps
    (h : PrefersSame (stepsRuns text i offers) (body.runs text i)) (greedy : Bool) (min : Nat)
    (max : Option Nat) :
    PrefersSame (stepsRuns text i (repSteps body offers greedy min max))
      ((Regex.rep body min max greedy).runs text i) := by
  induction min generalizing max with
  | zero =>
    cases max with
    | some max => exact prefersSame_stepsRuns_boundedSteps h greedy max
    | none => exact prefersSame_stepsRuns_furtherSteps h greedy
  | succ min ih =>
    rw [repSteps, runs, repeatedRuns]
    by_cases hlast : min = 0 ∧ max = none
    · obtain ⟨rfl, rfl⟩ := hlast
      exact (PrefersSame.of_eq (stepsRuns_advance offers body greedy true)).trans
        (h.advanced text.length i true _)
    · have hlast' : ¬(min = 0 ∧ max.map (· - 1) = none) := by simpa using hlast
      rw [if_neg hlast]
      simp only [if_neg hlast']
      refine (prefersSame_stepsRuns_followedBy fun haccept => ?_).trans
        (h.continued fun _ => PrefersSame.refl _)
      rw [if_pos haccept]
      exact ih _

end Repetition

/-- The steps of an expression at a position stand for its matches. -/
theorem prefersSame_stepsRuns (text : List Char) (r : Regex) (i : Nat) :
    PrefersSame (stepsRuns text i (steps (before? text i) text[i]? r)) (r.runs text i) := by
  induction r with
  | empty | mark => exact PrefersSame.refl _
  | chars set =>
    refine PrefersSame.of_eq ?_
    simp only [steps, stepsRuns, List.flatMap_singleton, Step.runs, runs]
    split <;> rfl
  | assert a =>
    refine PrefersSame.of_eq ?_
    rw [steps, runs]
    split <;> rfl
  | cat a b iha ihb =>
    refine (prefersSame_stepsRuns_followedBy fun haccept => ?_).trans
      (iha.continued fun _ => PrefersSame.refl _)
    rw [if_pos haccept]
    exact ihb
  | alt a b iha ihb => exact (prefersSame_stepsRuns_join text i _ _).trans (iha.append ihb)
  | rep body min max greedy ih => exact prefersSame_stepsRuns_repSteps ih greedy min max

end BuildTriage.Regex
