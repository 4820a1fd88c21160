import BuildTriage.Proofs.Regex.Runs

/-!
# The pass finds the preferred match

One pass over a text holds all expressions that may still match, in order of preference, and drops
what cannot be preferred any more. What it has found at the end is the first of all matches, in the
order in which a search that tries one after the other meets them (`match?_eq_head?`).

The matches that the pass has before it are those of its threads, each after the marks of its
thread. Reading a character splits them into those of the threads that go on and the match that is
accepted there, which is preferred to everything after it.
-/

namespace BuildTriage.Regex

/-- The matches of a thread at the position `i`. -/
def Thread.runs (text : List Char) (i : Nat) (t : Thread) : List Match :=
  (t.regex.runs text i).map (Match.after t.marks)

/-- The matches of threads, those of the first one preferred. -/
def threadsRuns (text : List Char) (i : Nat) (ts : List Thread) : List Match :=
  ts.flatMap (Thread.runs text i)

variable {text : List Char}

lemma threadsRuns_cons (i : Nat) (t : Thread) (ts : List Thread) :
    threadsRuns text i (t :: ts) = t.runs text i ++ threadsRuns text i ts :=
  List.flatMap_cons

lemma threadsRuns_append (i : Nat) (ts us : List Thread) :
    threadsRuns text i (ts ++ us) = threadsRuns text i ts ++ threadsRuns text i us :=
  List.flatMap_append

/-! ## One position -/

/-- The matches of a list are those of the threads that go on, then the accepted one, and then some
others if one was accepted. -/
def Splits (text : List Char) (i : Nat) (ms : List Match) (result : List Thread × Option Match) :
    Prop :=
  ∃ rest, ms = threadsRuns text (i + 1) result.1 ++ (result.2.toList ++ rest) ∧
    (result.2 = none → rest = [])

/-- Following the steps of an expression splits its matches. -/
lemma follow_splits (text : List Char) (i : Nat) (marks : List (Nat × Nat)) (offers : List Step) :
    Splits text i ((stepsRuns text i offers).map (Match.after marks))
      (follow i text[i]? marks offers) := by
  induction offers with
  | nil => exact ⟨[], rfl, fun _ => rfl⟩
  | cons step offers ih =>
    cases step with
    | accept ms =>
      refine ⟨(stepsRuns text i offers).map (Match.after marks), ?_, nofun⟩
      rw [stepsRuns_cons, List.map_append, Step.runs, follow, addMarks_eq_append i ms marks]
      rfl
    | read ms set next =>
      obtain ⟨rest, hsplit, hnone⟩ := ih
      rw [stepsRuns_cons, List.map_append, hsplit, follow]
      cases hread : text[i]?.any set.contains with
      | true =>
        refine ⟨rest, ?_, by simpa only [if_true] using hnone⟩
        simp only [Step.runs, hread, if_true, threadsRuns_cons, Thread.runs, map_after_map_after,
          List.append_assoc, addMarks_eq_append i ms marks]
      | false =>
        refine ⟨rest, ?_, by simpa only [Bool.false_eq_true, if_false] using hnone⟩
        simp only [Step.runs, hread, Bool.false_eq_true, if_false, List.map_nil, List.nil_append]

/-- Following the steps of threads splits their matches, as far as preference tells them apart. -/
lemma followAll_splits (text : List Char) (i : Nat) (ts : List Thread) :
    ∃ ms, PrefersSame (threadsRuns text i ts) ms ∧
      Splits text i ms (followAll i (before? text i) text[i]? ts) := by
  induction ts with
  | nil => exact ⟨[], PrefersSame.refl _, [], rfl, fun _ => rfl⟩
  | cons t ts ih =>
    have hsame := (prefersSame_stepsRuns text t.regex i).map_after t.marks
    have hsplit := follow_splits text i t.marks (steps (before? text i) text[i]? t.regex)
    rw [threadsRuns_cons, followAll]
    generalize follow i text[i]? t.marks (steps (before? text i) text[i]? t.regex) = first at hsplit
    obtain ⟨threads, _ | m⟩ := first
    · obtain ⟨rest, hfirst, hrest⟩ := hsplit
      obtain ⟨ms, hms, more, hmore, hnone⟩ := ih
      obtain rfl := hrest rfl
      refine ⟨_, (hsame.symm.append hms), more, ?_, hnone⟩
      rw [hfirst, hmore, threadsRuns_append]
      simp
    · obtain ⟨rest, hfirst, -⟩ := hsplit
      refine ⟨_, hsame.symm.append (PrefersSame.refl (threadsRuns text i ts)),
        rest ++ threadsRuns text i ts, ?_, nofun⟩
      rw [hfirst]
      simp

/-- Where the text ends no thread goes on. -/
lemma follow_none (i : Nat) (marks : List (Nat × Nat)) (offers : List Step) :
    (follow i none marks offers).1 = [] := by
  induction offers with
  | nil => rfl
  | cons step offers ih =>
    cases step with
    | accept => rfl
    | read => simpa [follow] using ih

lemma followAll_none (i : Nat) (before : Option Char) (ts : List Thread) :
    (followAll i before none ts).1 = [] := by
  induction ts with
  | nil => rfl
  | cons t ts ih =>
    have hfirst := follow_none i t.marks (steps before none t.regex)
    rw [followAll]
    generalize follow i none t.marks (steps before none t.regex) = first at hfirst
    obtain ⟨threads, _ | m⟩ := first
    · simp only [ih, List.append_nil]
      exact hfirst
    · exact hfirst

/-- A thread that repeats an earlier expression adds nothing. -/
lemma prefersSame_distinct (i : Nat) (ts : List Thread) :
    PrefersSame (threadsRuns text i (distinct ts)) (threadsRuns text i ts) := by
  induction ts with
  | nil => exact PrefersSame.refl _
  | cons t ts ih =>
    rw [distinct, threadsRuns_cons, threadsRuns_cons]
    refine (PrefersSame.filter _ _ fun u _ hsame m hm => ?_).trans ((PrefersSame.refl _).append ih)
    obtain ⟨n, hn, rfl⟩ := List.mem_map.1 hm
    have hregex : u.regex = t.regex := by simpa using hsame
    exact ⟨n.after t.marks, List.mem_map_of_mem (hregex ▸ hn), rfl⟩

/-! ## The whole pass -/

/-- What a position adds to what was found before. -/
lemma Splits.head?_eq {i : Nat} {ms : List Match} {result : List Thread × Option Match}
    (h : Splits text i ms result) :
    ms.head? = (threadsRuns text (i + 1) result.1).head?.or result.2 := by
  obtain ⟨rest, rfl, hnone⟩ := h
  obtain ⟨threads, _ | m⟩ := result
  · simp [hnone rfl]
  · simp

/-- The pass from a position finds the preferred match of its threads, and else keeps the match it
was given. -/
lemma runFrom_eq (i : Nat) (ts : List Thread) (best : Option Match) (rest : List Char)
    (hrest : text.drop i = rest) :
    runFrom i (before? text i) ts best rest = (threadsRuns text i ts).head?.or best := by
  induction rest generalizing i ts best with
  | nil =>
    have hchar : text[i]? = none := List.getElem?_eq_none (List.drop_eq_nil_iff.1 hrest)
    obtain ⟨ms, hms, hsplits⟩ := followAll_splits text i ts
    rw [hms.head?_eq, hsplits.head?_eq, hchar, followAll_none, runFrom]
    simp [threadsRuns]
  | cons c rest ih =>
    have hchar : text[i]? = some c := by
      rw [← List.head?_drop, hrest, List.head?_cons]
    have hdrop : text.drop (i + 1) = rest := by
      rw [← List.tail_drop, hrest, List.tail_cons]
    obtain ⟨ms, hms, hsplits⟩ := followAll_splits text i ts
    rw [hms.head?_eq, hsplits.head?_eq, hchar, runFrom]
    generalize followAll i (before? text i) (some c) ts = result
    obtain ⟨next, found⟩ := result
    have hbefore : some c = before? text (i + 1) := hchar.symm
    cases next with
    | nil => simp [threadsRuns]
    | cons t ts =>
      simp only [List.isEmpty_cons, Bool.false_eq_true, if_false]
      rw [hbefore, ih (i + 1) _ _ hdrop, (prefersSame_distinct (i + 1) (t :: ts)).head?_eq,
        Option.or_assoc]

/-- **The pass finds the preferred match.** -/
theorem match?_eq_head? (r : Regex) (text : List Char) : r.match? text = (r.runs text 0).head? := by
  rw [match?, show none = before? text 0 from rfl, runFrom_eq 0 _ _ text rfl]
  simp [threadsRuns, Thread.runs]

end BuildTriage.Regex
