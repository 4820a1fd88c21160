import BuildTriage.Proofs.Log.Batch
import BuildTriage.Proofs.Log.History
import Mathlib.Data.Nat.PSub

/-!
# How many patterns are left to find

A scan counts the patterns that it has not found. The counter is set from the patterns that the scan
starts with, counted up by each registration and counted down by each pattern that is found, and once
it is 0 lines are no longer tested. It never says anything but the truth: in every state that a scan
can come to it is the number of patterns without a report, so that it is never counted down from 0,
and a line that is not tested would have changed no report (`pending_exact`).

What a line does can thus be said without the counter: every pattern that is not found yet is tested
on it, and those that are still not found are counted afresh (`Scan.lineInFull`).
-/

namespace BuildTriage

variable {ε : Type}

namespace Scan

/-! ## Counting down -/

/-- Tests patterns on a line as `look` does, but has no result if the counter would be counted down
from 0. -/
def lookCounting? (line : List Char) :
    List Pattern → List (Option String) → (pending : Nat) → Option (List (Option String) × Nat)
  | p :: ps, none :: found, pending => do
    let state := p.find? line
    let left ← if state.isSome then pending.ppred else some pending
    let (found, pending) ← lookCounting? line ps found left
    return (state :: found, pending)
  | _ :: ps, some text :: found, pending => do
    let (found, pending) ← lookCounting? line ps found pending
    return (some text :: found, pending)
  | _, found, pending => some (found, pending)

/-- If the counter is at least the number of patterns not found yet, it is never counted down
from 0. -/
lemma lookCounting?_eq_look (line : List Char) (ps : List Pattern) {found : List (Option String)}
    {pending : Nat} (h : found.countP Option.isNone ≤ pending) :
    lookCounting? line ps found pending = some (look line ps found pending) := by
  induction ps generalizing found pending with
  | nil => simp only [lookCounting?, look]
  | cons p ps ih =>
    cases found with
    | nil => simp only [lookCounting?, look]
    | cons state found =>
      cases state with
      | some text =>
        have hrest : found.countP Option.isNone ≤ pending := by simpa using h
        simp only [lookCounting?, look, ih hrest]
        rfl
      | none =>
        have hrest : found.countP Option.isNone + 1 ≤ pending := by simpa using h
        -- The pattern that is tested is itself one of those that are counted.
        obtain ⟨left, rfl⟩ := Nat.exists_eq_add_of_le' (Nat.le_of_add_left_le hrest)
        cases hfind : p.find? line with
        | none =>
          simp only [lookCounting?, look, hfind, Option.isSome_none, Bool.false_eq_true, if_false,
            Option.bind_eq_bind, Option.bind_some, ih (Nat.le_of_succ_le hrest)]
          rfl
        | some text =>
          simp only [lookCounting?, look, hfind, Option.isSome_some, if_true, Nat.ppred_succ,
            Option.bind_eq_bind, Option.bind_some, Nat.add_sub_cancel,
            ih (Nat.le_of_add_le_add_right hrest)]
          rfl

/-! ## Lines without the counter -/

/-- Reads one line without regard to the counter: every pattern not found yet is tested, and those
that are still not found are counted. -/
def lineInFull (s : Scan) (text : String) : Scan :=
  let found := s.patterns.patterns.zipWith
    (fun p state => state.or (p.find? text.toList)) s.found
  { s with
    lines := s.lines + 1
    isBlank := s.isBlank && text.isEmpty
    tail := s.tail.push text
    found := found
    pending := found.countP Option.isNone }

/-- The scan after a step, all lines of which are read without regard to the counter. -/
def stepInFull (s : Scan) : ScanStep ε → Scan
  | .register r => s.step (ε := ε) (.register r)
  | step => step.delivered.foldl lineInFull s

/-- The scan after some steps, all lines of which are read without regard to the counter. -/
def runInFull (s : Scan) (steps : List (ScanStep ε)) : Scan :=
  steps.foldl stepInFull s

/-- What a line does besides testing patterns. -/
lemma line_eq (s : Scan) (text : String) :
    s.line text = { s with
      lines := s.lines + 1
      isBlank := s.isBlank && text.isEmpty
      tail := s.tail.push text
      found := (s.line text).found
      pending := (s.line text).pending } := by
  rw [line]
  dsimp only
  split <;> rfl

end Scan

namespace Tracks

variable {ws : List Watched} {read : List String} {s : Scan}

/-- Reading a line without regard to the counter comes to the same. -/
lemma line_eq_lineInFull (h : Tracks ws read s) (text : String) :
    s.line text = s.lineInFull text := by
  have hnext := h.line text
  have hfound : (s.line text).found = s.patterns.patterns.zipWith
      (fun p state => state.or (p.find? text.toList)) s.found := by
    rw [hnext.found_eq, h.patterns_eq, h.found_eq, List.zipWith_map, List.zipWith_self, List.map_map]
    exact List.map_congr_left fun w _ => w.report_after text
  rw [s.line_eq text, hnext.pending_eq, hfound]
  rfl

lemma readLines_eq_foldl_lineInFull (h : Tracks ws read s) (texts : List String) :
    s.readLines texts = texts.foldl Scan.lineInFull s := by
  induction texts generalizing ws read s with
  | nil => rfl
  | cons text rest ih =>
    rw [List.foldl_cons, ← h.line_eq_lineInFull text, ← ih (h.line text)]
    rfl

lemma step_eq_stepInFull (h : Tracks ws read s) (step : ScanStep ε) :
    s.step step = s.stepInFull step := by
  cases step with
  | register r => rfl
  | line | lines | whole | stream | framed =>
    rw [s.step_eq_readLines fun _ h => by cases h]
    exact h.readLines_eq_foldl_lineInFull _

lemma run_eq_runInFull (h : Tracks ws read s) (steps : List (ScanStep ε)) :
    s.run steps = s.runInFull steps := by
  induction steps generalizing ws read s with
  | nil => rfl
  | cons step rest ih =>
    rw [Scan.run, Scan.runInFull, List.foldl_cons, List.foldl_cons, ← h.step_eq_stepInFull step]
    exact ih (h.step step)

lemma length_found (h : Tracks ws read s) : s.found.length = s.patterns.size := by
  rw [PatternSet.size, h.patterns_eq, h.found_eq, List.length_map, List.length_map]

/-- The counter is the number of patterns for which the scan has no text. -/
lemma pending_eq_countP (h : Tracks ws read s) :
    s.pending = s.patterns.patterns.countP fun p => (s.captured? p.id).isNone := by
  rw [h.pending_eq, h.found_eq, h.patterns_eq, List.countP_map, List.countP_map]
  refine List.countP_congr fun w hw => ?_
  rw [Function.comp_apply, Function.comp_apply, h.captured?_eq hw]

end Tracks

/-! ## Registrations -/

/-- A registration that fails leaves the scan as it was, and one that does not adds its pattern to
those that are left to find. -/
lemma Scan.step_register_cases {s : Scan} (h : s.patterns.Consistent) (r : Registration) :
    (r.Fails s.patterns.ids ∧ s.register r = .error r.failure ∧
        s.step (ε := ε) (.register r) = s) ∨
      ¬r.Fails s.patterns.ids ∧ ∃ p t, r.pattern? = some p ∧
        t.patterns = s.patterns.patterns ++ [p] ∧
        s.register r = .ok (s.withPattern t) ∧ s.step (ε := ε) (.register r) = s.withPattern t := by
  by_cases hr : r.Fails s.patterns.ids
  · have hregister : s.register r = .error r.failure := by
      rw [Scan.register_eq, h.register_of_fails hr]
      rfl
    refine .inl ⟨hr, hregister, ?_⟩
    rw [Scan.step, hregister]
  · obtain ⟨p, t, hp, -, ht, hpatterns, -⟩ := h.register_of_not_fails hr
    have hregister : s.register r = .ok (s.withPattern t) := by
      rw [Scan.register_eq, ht]
      rfl
    refine .inr ⟨hr, p, t, hp, hpatterns, hregister, ?_⟩
    rw [Scan.step, hregister]

/-- **The counter is exact.** Let a scan start over a set that some calls have made, and let any
steps follow, registrations that succeed or fail among them. Then it keeps one report for each
pattern, and the counter is the number of patterns without a captured text. On no line is it counted
down from 0. A line that is read changes the scan as if every pattern not found yet had been tested
on it, and so the whole run comes to the same without the counter. A registration fails exactly if
its text is malformed or its id is taken, and then the scan is left as it was. -/
theorem pending_exact (calls : List RegistryCall) (limit : Nat) (steps : List (ScanStep ε)) :
    let start := Scan.start (.ofCalls calls) limit
    let s := start.run steps
    s.found.length = s.patterns.size ∧
      (s.pending = s.patterns.patterns.countP fun p => (s.captured? p.id).isNone) ∧
      (∀ text : String, Scan.lookCounting? text.toList s.patterns.patterns s.found s.pending
        = some (Scan.look text.toList s.patterns.patterns s.found s.pending)) ∧
      (∀ text, s.line text = s.lineInFull text) ∧ s = start.runInFull steps ∧
      ∀ r : Registration, ((∃ e, s.register r = .error e) ↔ r.Fails s.patterns.ids) ∧
        ∀ e, s.register r = .error e → s.step (ε := ε) (.register r) = s := by
  intro start s
  have hstart := (PatternSet.ofCalls_consistent calls).start_tracks limit
  have htracks := hstart.run steps
  refine ⟨htracks.length_found, htracks.pending_eq_countP, fun text => ?_,
    htracks.line_eq_lineInFull, hstart.run_eq_runInFull steps, fun r => ?_⟩
  · exact Scan.lookCounting?_eq_look _ _ (Nat.le_of_eq htracks.pending_eq.symm)
  · rcases Scan.step_register_cases (ε := ε) htracks.consistent r with
      ⟨hfails, hregister, hstep⟩ | ⟨hfails, p, t, -, -, hregister, -⟩
    · exact ⟨iff_of_true ⟨_, hregister⟩ hfails, fun _ _ => hstep⟩
    · refine ⟨iff_of_false ?_ hfails, fun e he => ?_⟩
      · rintro ⟨e, he⟩
        rw [hregister] at he
        cases he
      · rw [hregister] at he
        cases he

end BuildTriage
