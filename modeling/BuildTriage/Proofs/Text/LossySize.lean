import BuildTriage.Proofs.Text.Lossy
import Mathlib.Data.String.Basic

/-!
# The size of a text in replaced UTF-8

The replacement character takes three bytes, and what it stands for may be a single byte. So reading
bytes with replacements may give a text three times as long, and it never gives a longer one
(`utf8ByteSize_decodeLossy_le`). In the proof each byte that is read pays three bytes of text. A
sequence that is open may still be given up, and `State.reserve` is what the reader keeps for its
replacement; a sequence of two bytes or more that is completed costs less than it has paid.
-/

namespace BuildTriage.Text.Utf8

/-- The bytes that are kept for the replacement of an open sequence. -/
def State.reserve : State → Nat
  | .ground => 0
  | .within .. => 3

/-- How many bytes the text of some parts takes. -/
def partsSize (parts : List Part) : Nat :=
  String.utf8Len (parts.map (·.getD '\ufffd'))

lemma partsSize_append (first second : List Part) :
    partsSize (first ++ second) = partsSize first + partsSize second := by
  rw [partsSize, List.map_append, String.utf8Len_append, partsSize, partsSize]

lemma partsSize_none_cons (parts : List Part) :
    partsSize (none :: parts) = 3 + partsSize parts := by
  rw [← List.singleton_append, partsSize_append]
  rfl

lemma partsSize_singleton_le (part : Part) : partsSize [part] ≤ 4 := by
  have hsize := (part.getD '\ufffd').utf8Size_le_four
  simpa [partsSize] using hsize

/-- A first byte pays for itself, or for the sequence that it begins. -/
lemma start_size_le (b : UInt8) :
    partsSize (State.start b).1 + (State.start b).2.reserve ≤ 3 := by
  rcases start_cases b with ⟨hlt, hstart⟩ | hstart | ⟨k, value, hleads, hb⟩
  · have hencode := congrArg List.length (utf8EncodeChar_of_lt hlt)
    rw [String.length_utf8EncodeChar, List.length_singleton] at hencode
    simp [hstart, partsSize, State.reserve, hencode]
  · rw [hstart]
    decide
  · rw [start_of_leads hleads hb]
    exact Nat.le_refl 3

namespace State

/-- A byte pays three bytes of text, apart from what was kept before it and is kept after it. -/
lemma step_size_le (state : State) (b : UInt8) :
    partsSize (state.step b).1 + (state.step b).2.reserve ≤ 3 + state.reserve := by
  have hstart := start_size_le b
  cases state with
  | ground => exact hstart.trans (Nat.le_add_right _ _)
  | within value more low high =>
    by_cases hbounds : low ≤ b ∧ b ≤ high
    · simp only [step, if_pos hbounds]
      cases more with
      | zero =>
        have hsize := partsSize_singleton_le (some (Char.ofNat (value * 64 + (b.toNat - 0x80))))
        simp only [reserve]
        omega
      | succ more => exact Nat.le_add_left _ _
    · simp only [step, if_neg hbounds, partsSize_none_cons, reserve] at hstart ⊢
      omega

lemma parts_size_le (state : State) (bytes : List UInt8) :
    partsSize (state.parts bytes) ≤ 3 * bytes.length + state.reserve := by
  induction bytes generalizing state with
  | nil =>
    cases state with
    | ground => exact Nat.le_refl 0
    | within value more low high => exact Nat.le_refl 3
  | cons b rest ih =>
    have hstep := state.step_size_le b
    have hrest := ih (state.step b).2
    rw [parts, partsSize_append, List.length_cons]
    omega

end State

/-- Bytes read with replacements are at most three times as long as text. -/
theorem utf8ByteSize_decodeLossy_le (bytes : List UInt8) :
    (String.ofList (decodeLossy bytes)).utf8ByteSize ≤ 3 * bytes.length := by
  rw [String.utf8ByteSize_ofList, decodeLossy, parts_eq]
  exact State.ground.parts_size_le bytes

example : (String.ofList (decodeLossy [0xC3, 0xC3])).utf8ByteSize = 6 := by decide

end BuildTriage.Text.Utf8
