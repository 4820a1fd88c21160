import BuildTriage.Text.WhiteSpace
import Mathlib.Data.List.TakeWhile
import Mathlib.Tactic.Lemma

/-!
# Trimming a text

What is left of a text once the white space around it is taken away is a stretch of it with white
space before and after, and none at its own ends. There is one such stretch in every text
(`existsUnique_trimsTo`), and `trim` gives it. The definition takes white space off the front twice,
the second time from the reversed text; what a single pass does is said by `trimStart_exact`.
-/

namespace BuildTriage.Text

/-- `core` is the text without the white space around it. -/
structure TrimsTo (text core : List Char) : Prop where
  around : ∃ front back, text = front ++ core ++ back ∧
    front.all isWhiteSpace = true ∧ back.all isWhiteSpace = true
  head : core.head?.any isWhiteSpace = false
  last : core.getLast?.any isWhiteSpace = false

lemma TrimsTo.subset {text core : List Char} (h : TrimsTo text core) : core ⊆ text := by
  obtain ⟨front, back, rfl, -, -⟩ := h.around
  intro c hc
  simp [hc]

/-! ## One pass -/

lemma trimStart_cons {c : Char} (h : isWhiteSpace c = false) (cs : List Char) :
    trimStart (c :: cs) = c :: cs :=
  List.dropWhile_cons_of_neg (Bool.not_eq_true _ ▸ h)

/-- A pass takes away what is white and stops at the first character that is not. -/
lemma trimStart_exact {front rest : List Char} (hfront : front.all isWhiteSpace = true)
    (hrest : rest.head?.any isWhiteSpace = false) : trimStart (front ++ rest) = rest := by
  rw [trimStart, List.dropWhile_append_of_pos (List.all_eq_true.1 hfront)]
  cases rest with
  | nil => rfl
  | cons c cs => exact trimStart_cons hrest cs

lemma exists_trimStart (text : List Char) :
    ∃ front, text = front ++ trimStart text ∧ front.all isWhiteSpace = true :=
  ⟨text.takeWhile isWhiteSpace, List.takeWhile_append_dropWhile.symm,
    List.all_eq_true.2 fun _ => List.mem_takeWhile_imp⟩

lemma trimStart_head (text : List Char) : (trimStart text).head?.any isWhiteSpace = false := by
  have hnot := List.head?_dropWhile_not isWhiteSpace text
  rw [trimStart]
  cases hhead : (text.dropWhile isWhiteSpace).head? with
  | none => rfl
  | some c => simpa [hhead] using hnot

/-! ## Both ends -/

lemma trim_trimsTo (text : List Char) : TrimsTo text (trim text) := by
  obtain ⟨front, htext, hfront⟩ := exists_trimStart text
  obtain ⟨back, hrest, hback⟩ := exists_trimStart (trimStart text).reverse
  have hsplit : trimStart text = trim text ++ back.reverse := by
    rw [trim, ← List.reverse_append, ← hrest, List.reverse_reverse]
  refine ⟨⟨front, back.reverse, ?_, hfront, ?_⟩, ?_, ?_⟩
  · rw [List.append_assoc, ← hsplit, ← htext]
  · rw [List.all_reverse, hback]
  · have hhead := trimStart_head text
    rw [hsplit] at hhead
    cases hcore : trim text with
    | nil => rfl
    | cons => rwa [hcore] at hhead
  · rw [trim, List.getLast?_reverse]
    exact trimStart_head _

lemma TrimsTo.trim_eq {text core : List Char} (h : TrimsTo text core) : trim text = core := by
  obtain ⟨front, back, rfl, hfront, hback⟩ := h.around
  cases hcore : core with
  | nil =>
    -- All of the text is white, and the first pass takes it away.
    have hall : (front ++ back).all isWhiteSpace = true := by
      rw [List.all_append, hfront, hback, Bool.and_self]
    have hpass : trimStart ((front ++ back) ++ []) = [] := trimStart_exact hall rfl
    rw [List.append_nil] at hpass ⊢
    rw [trim, hpass]
    rfl
  | cons c cs =>
    have hhead : (core ++ back).head?.any isWhiteSpace = false := by
      have hfirst := h.head
      rwa [hcore] at hfirst ⊢
    have hback' : back.reverse.all isWhiteSpace = true := by rw [List.all_reverse, hback]
    have hlast : core.reverse.head?.any isWhiteSpace = false := by rw [List.head?_reverse, h.last]
    rw [← hcore, trim, List.append_assoc, trimStart_exact hfront hhead, List.reverse_append,
      trimStart_exact hback' hlast, List.reverse_reverse]

theorem existsUnique_trimsTo (text : List Char) : ∃! core, TrimsTo text core :=
  ⟨trim text, trim_trimsTo text, fun _ hcore => hcore.trim_eq.symm⟩

end BuildTriage.Text
