/-!
# Upper case, as far as ASCII letters spell it

Names written in ASCII capitals are looked up without regard to case. A character matters to such a
look-up only if its full upper case consists of ASCII letters: the small letters `a` to `z`, the
sharp s, the long s, the dotless i and seven ligatures. Every other character keeps a form that no
ASCII name holds.
-/

namespace BuildTriage.Text

/-- The upper case of `c` where ASCII letters spell it, and `c` itself otherwise. -/
def upperAscii (c : Char) : List Char :=
  match c with
  | 'ß' => ['S', 'S']
  | 'ſ' => ['S']
  | 'ı' => ['I']
  | 'ﬀ' => ['F', 'F']
  | 'ﬁ' => ['F', 'I']
  | 'ﬂ' => ['F', 'L']
  | 'ﬃ' => ['F', 'F', 'I']
  | 'ﬄ' => ['F', 'F', 'L']
  | 'ﬅ' => ['S', 'T']
  | 'ﬆ' => ['S', 'T']
  | c => [c.toUpper]

end BuildTriage.Text
