/-!
# Searching a text

`occursIn needle text` tells whether `needle` stands somewhere in `text` as one piece.
-/

namespace BuildTriage.Text

/-- Whether `needle` is a contiguous part of the text. -/
def occursIn {α : Type} [BEq α] (needle : List α) : List α → Bool
  | [] => needle.isEmpty
  | c :: rest => needle.isPrefixOf (c :: rest) || occursIn needle rest

theorem occursIn_iff {α : Type} [BEq α] [LawfulBEq α] (needle text : List α) :
    occursIn needle text = true ↔ needle <:+: text := by
  induction text with
  | nil => simp [occursIn]
  | cons c rest ih => simp [occursIn, ih, List.infix_cons_iff]

end BuildTriage.Text
