import BuildTriage.Json.Draft
import BuildTriage.Json.Value
import BuildTriage.Proofs.Text.Numbers

/-!
# Reading what was written

A value that is written in either layout is read as the draft of that value, whatever white space
stands before and after it (`ofText_toText`). The draft of a value (`Draft.ofValue`) holds its texts
whole, whichever of their characters were escaped, and its integers as the digits written.

The reader is followed along the value. What it needs to know of the text after a value is that no
number can go on there (`ClosesValue`), and the fuel that it is given is measured by the text that
is left.
-/

namespace BuildTriage.Json

/-! ## Induction over values -/

/-- A property holds for all values if it holds for the simple ones, and for arrays and objects
where it holds for each item or member. -/
@[elab_as_elim, induction_eliminator]
theorem Value.induction {motive : Value → Prop} (null : motive .null)
    (bool : ∀ b, motive (.bool b)) (integer : ∀ i, motive (.integer i))
    (text : ∀ s, motive (.text s))
    (array : ∀ items, (∀ v ∈ items, motive v) → motive (.array items))
    (object : ∀ members, (∀ m ∈ members, motive m.2) → motive (.object members)) : ∀ v, motive v
  | .null => null
  | .bool b => bool b
  | .integer i => integer i
  | .text s => text s
  | .array items =>
    array items fun v _ => Value.induction null bool integer text array object v
  | .object members =>
    object members fun m _ => Value.induction null bool integer text array object m.2
termination_by v => sizeOf v
decreasing_by
  · have hlt := List.sizeOf_lt_of_mem ‹_ ∈ items›
    simp only [Value.array.sizeOf_spec]
    omega
  · have hlt := List.sizeOf_lt_of_mem ‹m ∈ members›
    have hsnd : sizeOf m.2 < sizeOf m := by
      cases m
      simp only [Prod.mk.sizeOf_spec]
      omega
    simp only [Value.object.sizeOf_spec]
    omega

namespace Draft

/-! ## The draft of a value -/

mutual

/-- The draft that is read where a value was written. -/
def ofValue : Value → Draft
  | .null => .null
  | .bool b => .bool b
  | .integer i => .number { negative := i < 0, whole := Text.decimal i.natAbs }
  | .text s => .text (some s)
  | .array items => .array (ofItems items)
  | .object members => .object (ofMembers members)

/-- The drafts of items. -/
def ofItems : List Value → List Draft
  | [] => []
  | v :: rest => ofValue v :: ofItems rest

/-- The drafts of members; names are texts. -/
def ofMembers : List (String × Value) → List (Draft × Draft)
  | [] => []
  | (name, v) :: rest => (.text (some name), ofValue v) :: ofMembers rest

end

/-! ## White space -/

lemma isBlank_iff {c : Char} : isBlank c = true ↔ c ∈ [' ', '\n', '\t', '\r'] := by
  simp [isBlank, or_assoc]

lemma skipBlanks_append {blanks : List Char} (h : ∀ c ∈ blanks, isBlank c = true) (s : List Char) :
    skipBlanks (blanks ++ s) = skipBlanks s :=
  List.dropWhile_append_of_pos h

lemma skipBlanks_cons {c : Char} (h : isBlank c = false) (s : List Char) :
    skipBlanks (c :: s) = c :: s :=
  List.dropWhile_cons_of_neg (by simp [h])

lemma isBlank_lineBreak (l : Layout) (depth : Nat) : ∀ c ∈ l.lineBreak depth, isBlank c = true := by
  cases l with
  | compact => exact List.forall_mem_nil _
  | indented =>
    refine List.forall_mem_cons.2 ⟨rfl, fun c hc => ?_⟩
    rw [List.eq_of_mem_replicate hc]
    rfl

lemma isBlank_gap (l : Layout) : ∀ c ∈ l.gap, isBlank c = true := by
  cases l with
  | compact => exact List.forall_mem_nil _
  | indented => exact List.forall_mem_singleton.2 rfl

/-! ## Texts -/

/-- The unit that is read where a character was written: a control character without a letter of its
own is written by its code. -/
def writtenUnit (c : Char) : TextUnit :=
  if c.toNat < 0x20 ∧ c ∉ ['\x08', '\t', '\n', '\x0c', '\r'] then .code c.toNat else .char c

lemma hexCode?_low {n : Nat} (h : n < 0x20) :
    hexCode? '0' '0' (hexDigit (n / 16)) (hexDigit (n % 16)) = some n := by
  have hall : ∀ n < 0x20, hexCode? '0' '0' (hexDigit (n / 16)) (hexDigit (n % 16)) = some n := by
    decide
  exact hall n h

lemma readUnits_of_plain {c : Char} (hquote : c ≠ '"') (hbackslash : c ≠ '\\')
    (hcontrol : ¬c.toNat < 0x20) (found : List TextUnit) (rest : List Char) :
    readUnits found (c :: rest) = readUnits (.char c :: found) rest := by
  rw [readUnits.eq_def]
  split
  case h_5 hcons =>
    obtain ⟨rfl, rfl⟩ := List.cons.inj hcons
    rw [if_neg (by simp [hcontrol, hbackslash])]
  all_goals simp_all

/-- What was written for a character is read as one unit. -/
lemma readUnits_escapedChar (c : Char) (found : List TextUnit) (rest : List Char) :
    readUnits found (escapedChar c ++ rest) = readUnits (writtenUnit c :: found) rest := by
  unfold escapedChar
  split
  case h_8 hquote hbackslash hb ht hn hf hr =>
    by_cases hcontrol : c.toNat < 0x20
    · have hunit : writtenUnit c = .code c.toNat := by
        rw [writtenUnit, if_pos ⟨hcontrol, by
          simpa using ⟨hb, ht, hn, hf, hr⟩⟩]
      rw [if_pos hcontrol, hunit]
      simp only [List.cons_append, List.nil_append, readUnits, hexCode?_low hcontrol]
    · have hunit : writtenUnit c = .char c := by
        rw [writtenUnit, if_neg fun h => hcontrol h.1]
      rw [if_neg hcontrol, hunit, List.singleton_append]
      exact readUnits_of_plain hquote hbackslash hcontrol found rest
  all_goals rfl

lemma readUnits_flatMap_escapedChar (s : List Char) (found : List TextUnit) (rest : List Char) :
    readUnits found (s.flatMap escapedChar ++ '"' :: rest)
      = some (found.reverse ++ s.map writtenUnit, rest) := by
  induction s generalizing found with
  | nil => simp [readUnits]
  | cons c s ih =>
    rw [List.flatMap_cons, List.append_assoc, readUnits_escapedChar, ih]
    simp

lemma joinUnits_code {n : Nat} (h : n < 0xD800) (found : List Char) (rest : List TextUnit) :
    joinUnits found (.code n :: rest) = joinUnits (Char.ofNat n :: found) rest := by
  have hlow : ¬0xD800 ≤ n := by omega
  cases rest with
  | nil => simp only [joinUnits, hlow, false_and, if_false]
  | cons unit rest => cases unit <;> simp only [joinUnits, hlow, false_and, if_false]

/-- The units that are written stand for the characters of the text. -/
lemma joinUnits_map_writtenUnit (s found : List Char) :
    joinUnits found (s.map writtenUnit) = some (found.reverse ++ s) := by
  induction s generalizing found with
  | nil => simp [joinUnits]
  | cons c s ih =>
    rw [List.map_cons, writtenUnit]
    split
    · next h =>
      rw [joinUnits_code (by omega), ih, Char.ofNat_toNat]
      simp
    · rw [joinUnits, ih]
      simp

lemma readScalar_quotedText (s : String) (rest : List Char) :
    readScalar (quotedText s ++ rest) = some (.text (some s), rest) := by
  have hunits := readUnits_flatMap_escapedChar s.toList [] rest
  have hjoin := joinUnits_map_writtenUnit s.toList []
  rw [quotedText, List.cons_append, List.append_assoc, List.singleton_append, readScalar, hunits]
  simp [hjoin]

/-! ## Words and numbers -/

/-- What may stand after a value: nothing, white space, or what comes next in an array or object. No
number goes on there. -/
def ClosesValue (rest : List Char) : Prop :=
  ∀ c ∈ rest.head?, isBlank c = true ∨ c ∈ [',', ']', '\x7d']

lemma closesValue_cons {c : Char} (h : isBlank c = true ∨ c ∈ [',', ']', '\x7d'])
    (rest : List Char) : ClosesValue (c :: rest) := by
  intro d hd
  cases hd
  exact h

lemma closesValue_comma (rest : List Char) : ClosesValue (',' :: rest) :=
  closesValue_cons (.inr List.mem_cons_self) rest

lemma closesValue_of_blanks {blanks : List Char} (h : ∀ c ∈ blanks, isBlank c = true) :
    ClosesValue blanks :=
  fun c hc => .inl (h c (List.mem_of_mem_head? hc))

/-- What can be decided of every character that may stand after a value is true of the one that
does. -/
lemma ClosesValue.of_all {c : Char} {rest : List Char} (h : ClosesValue (c :: rest))
    {p : Char → Bool} (hall : [' ', '\n', '\t', '\r', ',', ']', '\x7d'].all p = true) :
    p c = true := by
  refine List.all_eq_true.1 hall c ?_
  rcases h c rfl with hblank | hclose
  · exact List.mem_append_left [',', ']', '\x7d'] (isBlank_iff.1 hblank)
  · exact List.mem_append_right [' ', '\n', '\t', '\r'] hclose

lemma ClosesValue.endsNumber {rest : List Char} (h : ClosesValue rest) : Text.EndsNumber rest := by
  cases rest with
  | nil => exact Text.endsNumber_nil
  | cons c rest =>
    have hdigit : (!c.isDigit) = true := h.of_all (p := fun c => !c.isDigit) (by decide)
    exact Text.endsNumber_cons (by simpa using hdigit) rest

lemma readFraction_of_closesValue {rest : List Char} (h : ClosesValue rest) :
    readFraction rest = some (none, rest) := by
  cases rest with
  | nil => rfl
  | cons c rest =>
    have hpoint : (c != '.') = true := h.of_all (p := (· != '.')) (by decide)
    rw [readFraction]
    exact fun s hs => bne_iff_ne.1 hpoint (List.cons.inj hs).1

lemma readExponent_of_closesValue {rest : List Char} (h : ClosesValue rest) :
    readExponent rest = some (none, rest) := by
  cases rest with
  | nil => rfl
  | cons c rest =>
    have hletter : decide (¬(c = 'e' ∨ c = 'E')) = true :=
      h.of_all (p := fun c => decide (¬(c = 'e' ∨ c = 'E'))) (by decide)
    unfold readExponent
    exact if_neg (of_decide_eq_true hletter)

lemma readWhole_decimal (n : Nat) {rest : List Char} (h : Text.EndsNumber rest) :
    readWhole (Text.decimal n ++ rest) = some (Text.decimal n, rest) := by
  have hspan : Text.spanDigits (Text.decimal n ++ rest) = (Text.decimal n, rest) :=
    Text.spanDigits_append (fun _ => Text.isDigit_of_mem_decimal) h
  have hzero : ¬(1 < (Text.decimal n).length ∧ (Text.decimal n).head? = some '0') := by
    rintro ⟨hlength, hhead⟩
    rcases Nat.eq_zero_or_pos n with rfl | hpos
    · exact absurd hlength (by decide)
    · exact Text.head?_decimal_ne_zero hpos hhead
  have hdigits : readDigits (Text.decimal n ++ rest) = some (Text.decimal n, rest) := by
    simp [readDigits, hspan, Text.decimal_ne_nil]
  simp [readWhole, hdigits, hzero]

lemma readNumber_decimal (negative : Bool) (n : Nat) {rest : List Char} (h : ClosesValue rest) :
    readNumber negative (Text.decimal n ++ rest)
      = some (.number { negative := negative, whole := Text.decimal n }, rest) := by
  simp [readNumber, readWhole_decimal n h.endsNumber, readFraction_of_closesValue h,
    readExponent_of_closesValue h]

lemma readScalar_of_isDigit {c : Char} (h : c.isDigit = true) (rest : List Char) :
    readScalar (c :: rest) = readNumber false (c :: rest) := by
  rw [readScalar.eq_def]
  split
  case h_7 => rfl
  all_goals simp_all

lemma readScalar_integer (i : Int) {rest : List Char} (h : ClosesValue rest) :
    readScalar (Text.integer i ++ rest) = some (ofValue (.integer i), rest) := by
  cases i with
  | ofNat n =>
    obtain ⟨c, digits, hcons, hdigit⟩ := Text.exists_decimal_eq_cons n
    have hread := readNumber_decimal false n h
    rw [hcons, List.cons_append, ← readScalar_of_isDigit hdigit, ← List.cons_append,
      ← hcons] at hread
    have hnonneg : ¬(n : Int) < 0 := by omega
    simpa [Text.integer, ofValue, hnonneg] using hread
  | negSucc n =>
    have hread := readNumber_decimal true (n + 1) h
    simpa [Text.integer, ofValue, readScalar, Int.natAbs_negSucc, Int.negSucc_lt_zero] using hread

/-! ## Values -/

/-- A text other than an array or object is read as what stands there, after white space. -/
lemma readValue_of_readScalar {fuel : Nat} (hfuel : 0 < fuel) {blanks : List Char}
    (hblanks : ∀ c ∈ blanks, isBlank c = true) {c : Char}
    (hc : isBlank c = false ∧ c ≠ '[' ∧ c ≠ '\x7b') {s rest : List Char} {v : Draft}
    (h : readScalar (c :: s) = some (v, rest)) :
    readValue fuel (blanks ++ c :: s) = (v, some rest) := by
  obtain ⟨fuel, rfl⟩ := Nat.exists_eq_succ_of_ne_zero hfuel.ne'
  rw [readValue, skipBlanks_append hblanks, skipBlanks_cons hc.1]
  split
  · exact absurd (List.cons.inj ‹_›).1 hc.2.1
  · exact absurd (List.cons.inj ‹_›).1 hc.2.2
  · rw [h]

/-- The text of a value begins with a character that is neither white space nor the end of an array
or object. -/
lemma exists_render_eq_cons (l : Layout) (depth : Nat) (v : Value) :
    ∃ c s, v.render l depth = c :: s ∧ isBlank c = false ∧ c ≠ ']' ∧ c ≠ '\x7d' := by
  have hdigit : ∀ c : Char, c.isDigit = true → isBlank c = false ∧ c ≠ ']' ∧ c ≠ '\x7d' := by
    intro c hc
    have hother : [' ', '\n', '\t', '\r', ']', '\x7d'].all (!·.isDigit) = true := by decide
    have hne : c ∉ [' ', '\n', '\t', '\r', ']', '\x7d'] := by
      intro hmem
      have hdigit := List.all_eq_true.1 hother c hmem
      simp [hc] at hdigit
    simp_all [isBlank]
  match v with
  | .null => exact ⟨'n', _, rfl, by decide⟩
  | .bool true => exact ⟨'t', _, rfl, by decide⟩
  | .bool false => exact ⟨'f', _, rfl, by decide⟩
  | .integer (.negSucc n) => exact ⟨'-', _, rfl, by decide⟩
  | .integer (.ofNat n) =>
    obtain ⟨c, digits, hcons, hc⟩ := Text.exists_decimal_eq_cons n
    exact ⟨c, digits, hcons, hdigit c hc⟩
  | .text s => exact ⟨'"', _, rfl, by decide⟩
  | .array [] => exact ⟨'[', _, rfl, by decide⟩
  | .array (v :: rest) => exact ⟨'[', _, by rw [Value.render], by decide⟩
  | .object [] => exact ⟨'\x7b', _, rfl, by decide⟩
  | .object ((name, v) :: rest) => exact ⟨'\x7b', _, by rw [Value.render], by decide⟩

/-- The value is read back from its text, given enough fuel, whatever white space stands before it
and whatever closes it. -/
def ReadsBack (v : Value) : Prop :=
  ∀ (l : Layout) (depth fuel : Nat) (blanks rest : List Char), (∀ c ∈ blanks, isBlank c = true) →
    ClosesValue rest → 2 * (v.render l depth).length ≤ fuel →
    readValue fuel (blanks ++ v.render l depth ++ rest) = (ofValue v, some rest)

lemma readsBack_of_readScalar {v : Value}
    (h : ∀ (l : Layout) (depth : Nat) (rest : List Char), ClosesValue rest →
      readScalar (v.render l depth ++ rest) = some (ofValue v, rest)) : ReadsBack v := by
  intro l depth fuel blanks rest hblanks hrest hfuel
  obtain ⟨c, s, hcons, hc, -, -⟩ := exists_render_eq_cons l depth v
  have hread := h l depth rest hrest
  rw [hcons, List.cons_append] at hread
  have hbracket : c ≠ '[' := by
    rintro rfl
    cases hread
  have hbrace : c ≠ '\x7b' := by
    rintro rfl
    cases hread
  have hpos : 0 < fuel := by
    rw [hcons, List.length_cons] at hfuel
    omega
  rw [List.append_assoc, hcons, List.cons_append]
  exact readValue_of_readScalar hpos hblanks ⟨hc, hbracket, hbrace⟩ hread

lemma readValue_quotedText {fuel : Nat} (hfuel : 0 < fuel) {blanks : List Char}
    (hblanks : ∀ c ∈ blanks, isBlank c = true) (s : String) (rest : List Char) :
    readValue fuel (blanks ++ (quotedText s ++ rest)) = (.text (some s), some rest) :=
  readValue_of_readScalar hfuel hblanks (by decide) (readScalar_quotedText s rest)

section Nested

variable {l : Layout} {depth : Nat} {close rest : List Char}

/-- Items that are read back one by one are read back one after another, up to the bracket. -/
lemma readItems_renderItems (hclose : ClosesValue close) (hend : skipBlanks close = ']' :: rest)
    (items : List Value) (v : Value) (hitems : ∀ w ∈ v :: items, ReadsBack w) {fuel : Nat}
    (hfuel : 2 * ((v.render l depth).length + (Value.renderItems l depth items).length) < fuel)
    (blanks : List Char) (hblanks : ∀ c ∈ blanks, isBlank c = true) (found : List Draft) :
    readItems fuel found
        (blanks ++ v.render l depth ++ (Value.renderItems l depth items ++ close))
      = (found.reverse ++ ofItems (v :: items), some rest) := by
  have hv : ReadsBack v := hitems v List.mem_cons_self
  induction items generalizing v fuel blanks found with
  | nil =>
    cases fuel with
    | zero => omega
    | succ fuel =>
      have hread := hv l depth fuel blanks close hblanks hclose (by omega)
      rw [Value.renderItems, List.nil_append, readItems, hread]
      simp [hend, ofItems]
  | cons w items ih =>
    cases fuel with
    | zero => omega
    | succ fuel =>
      have hrest : Value.renderItems l depth (w :: items) ++ close
          = ',' :: (l.lineBreak depth ++ w.render l depth
            ++ (Value.renderItems l depth items ++ close)) := by
        simp [Value.renderItems]
      have hlength : (Value.renderItems l depth (w :: items)).length
          = (l.lineBreak depth).length + (w.render l depth).length
            + (Value.renderItems l depth items).length + 1 := by
        simp [Value.renderItems]
        omega
      have hread := fun s =>
        hv l depth fuel blanks (',' :: s) hblanks (closesValue_comma s) (by omega)
      have hleft : 2 * ((w.render l depth).length + (Value.renderItems l depth items).length)
          < fuel := by
        omega
      have htail := ih w (fun u hu => hitems u (List.mem_cons_of_mem v hu)) hleft
        (l.lineBreak depth) (isBlank_lineBreak l depth) (ofValue v :: found)
        (hitems w (List.mem_cons_of_mem v List.mem_cons_self))
      rw [hrest, readItems, hread]
      simp only [skipBlanks_cons (show isBlank ',' = false from rfl)]
      rw [htail]
      simp [ofItems]

/-- Members whose values are read back one by one are read back one after another, up to the
brace. -/
lemma readMembers_renderMembers (hclose : ClosesValue close)
    (hend : skipBlanks close = '\x7d' :: rest) (members : List (String × Value)) (name : String)
    (v : Value) (hmembers : ∀ m ∈ (name, v) :: members, ReadsBack m.2) {fuel : Nat}
    (hfuel : 2 * ((quotedText name).length + (v.render l depth).length
      + (Value.renderMembers l depth members).length) < fuel)
    (blanks : List Char) (hblanks : ∀ c ∈ blanks, isBlank c = true)
    (found : List (Draft × Draft)) :
    readMembers fuel found
        (blanks ++ (quotedText name ++ ':' :: (l.gap ++ v.render l depth
          ++ (Value.renderMembers l depth members ++ close))))
      = (found.reverse ++ ofMembers ((name, v) :: members), some rest) := by
  have hv : ReadsBack v := hmembers _ List.mem_cons_self
  induction members generalizing name v fuel blanks found with
  | nil =>
    cases fuel with
    | zero => omega
    | succ fuel =>
      have hname : 0 < (quotedText name).length := by simp [quotedText]
      have hkey := readValue_quotedText (by omega : 0 < fuel) hblanks name
      have hread := hv l depth fuel l.gap close (isBlank_gap l) hclose (by omega)
      rw [Value.renderMembers, List.nil_append, readMembers, hkey]
      simp only [skipBlanks_cons (show isBlank ':' = false from rfl), hread, hend]
      simp [ofMembers]
  | cons m members ih =>
    cases fuel with
    | zero => omega
    | succ fuel =>
      have hrest : Value.renderMembers l depth (m :: members) ++ close
          = ',' :: (l.lineBreak depth ++ (quotedText m.1 ++ ':' :: (l.gap ++ m.2.render l depth
            ++ (Value.renderMembers l depth members ++ close)))) := by
        simp [Value.renderMembers]
      have hlength : (Value.renderMembers l depth (m :: members)).length
          = (l.lineBreak depth).length + (quotedText m.1).length + 1 + l.gap.length
            + (m.2.render l depth).length + (Value.renderMembers l depth members).length + 1 := by
        simp [Value.renderMembers]
        omega
      have hname : 0 < (quotedText name).length := by simp [quotedText]
      have hkey := readValue_quotedText (by omega : 0 < fuel) hblanks name
      have hread := fun s =>
        hv l depth fuel l.gap (',' :: s) (isBlank_gap l) (closesValue_comma s)
          (by omega)
      have hleft : 2 * ((quotedText m.1).length + (m.2.render l depth).length
          + (Value.renderMembers l depth members).length) < fuel := by
        omega
      have htail := ih m.1 m.2 (fun u hu => hmembers u (List.mem_cons_of_mem _ hu)) hleft
        (l.lineBreak depth) (isBlank_lineBreak l depth) ((.text (some name), ofValue v) :: found)
        (hmembers m (List.mem_cons_of_mem _ List.mem_cons_self))
      rw [hrest, readMembers, hkey]
      simp only [skipBlanks_cons (show isBlank ':' = false from rfl), hread,
        skipBlanks_cons (show isBlank ',' = false from rfl)]
      rw [htail]
      simp [ofMembers]

end Nested

/-- An array that does not end at once is read as its items. -/
lemma readValue_array {blanks : List Char} (hblanks : ∀ c ∈ blanks, isBlank c = true) {c : Char}
    (hc : isBlank c = false) (hbracket : c ≠ ']') (s : List Char) (fuel : Nat) :
    readValue (fuel + 1) ('[' :: (blanks ++ c :: s))
      = (.array (readItems fuel [] (c :: s)).1, (readItems fuel [] (c :: s)).2) := by
  rw [readValue, skipBlanks_cons rfl]
  simp only [skipBlanks_append hblanks, skipBlanks_cons hc]
  split
  · exact absurd (List.cons.inj ‹_›).1 hbracket
  · rfl

/-- An object that does not end at once is read as its members. -/
lemma readValue_object {blanks : List Char} (hblanks : ∀ c ∈ blanks, isBlank c = true) {c : Char}
    (hc : isBlank c = false) (hbrace : c ≠ '\x7d') (s : List Char) (fuel : Nat) :
    readValue (fuel + 1) ('\x7b' :: (blanks ++ c :: s))
      = (.object (readMembers fuel [] (c :: s)).1, (readMembers fuel [] (c :: s)).2) := by
  rw [readValue, skipBlanks_cons rfl]
  simp only [skipBlanks_append hblanks, skipBlanks_cons hc]
  split
  · exact absurd (List.cons.inj ‹_›).1 hbrace
  · rfl

lemma readValue_append_blanks {blanks : List Char} (h : ∀ c ∈ blanks, isBlank c = true)
    (fuel : Nat) (s : List Char) : readValue fuel (blanks ++ s) = readValue fuel s := by
  cases fuel with
  | zero => rw [readValue, readValue]
  | succ fuel => rw [readValue, readValue, skipBlanks_append h]

/-- What follows the last item or member: a line break and the end of the array or object. -/
lemma closesValue_end (l : Layout) (depth : Nat) {c : Char} (hc : c ∈ [',', ']', '\x7d'])
    (rest : List Char) : ClosesValue (l.lineBreak depth ++ c :: rest) := by
  cases l with
  | compact => exact closesValue_cons (.inr hc) rest
  | indented => exact closesValue_cons (.inl rfl) _

lemma readsBack_array {items : List Value} (h : ∀ v ∈ items, ReadsBack v) :
    ReadsBack (.array items) := by
  intro l depth fuel blanks rest hblanks hrest hfuel
  rw [List.append_assoc, readValue_append_blanks hblanks]
  match items, fuel with
  | [], 0 => cases hfuel
  | [], fuel + 1 => rfl
  | v :: items, 0 => simp [Value.render] at hfuel
  | v :: items, fuel + 1 =>
    have hend : skipBlanks (l.lineBreak depth ++ ']' :: rest) = ']' :: rest := by
      rw [skipBlanks_append (isBlank_lineBreak l depth), skipBlanks_cons rfl]
    have hleft : 2 * ((v.render l (depth + 1)).length
        + (Value.renderItems l (depth + 1) items).length) < fuel := by
      simp only [Value.render, List.length_cons, List.length_append] at hfuel
      omega
    have hread := readItems_renderItems (closesValue_end l depth (by decide) rest) hend items v h
      hleft [] (List.forall_mem_nil _) []
    obtain ⟨c, s, hcons, hc, hbracket, -⟩ := exists_render_eq_cons l (depth + 1) v
    rw [List.nil_append, hcons, List.cons_append] at hread
    have htext : (Value.array (v :: items)).render l depth ++ rest
        = '[' :: (l.lineBreak (depth + 1) ++ c :: (s
          ++ (Value.renderItems l (depth + 1) items ++ (l.lineBreak depth ++ ']' :: rest)))) := by
      simp [Value.render, hcons]
    rw [htext, readValue_array (isBlank_lineBreak l (depth + 1)) hc hbracket, hread]
    rfl

lemma readsBack_object {members : List (String × Value)} (h : ∀ m ∈ members, ReadsBack m.2) :
    ReadsBack (.object members) := by
  intro l depth fuel blanks rest hblanks hrest hfuel
  rw [List.append_assoc, readValue_append_blanks hblanks]
  match members, fuel with
  | [], 0 => cases hfuel
  | [], fuel + 1 => rfl
  | m :: members, 0 => simp [Value.render] at hfuel
  | (name, v) :: members, fuel + 1 =>
    have hend : skipBlanks (l.lineBreak depth ++ '\x7d' :: rest) = '\x7d' :: rest := by
      rw [skipBlanks_append (isBlank_lineBreak l depth), skipBlanks_cons rfl]
    have hleft : 2 * ((quotedText name).length + (v.render l (depth + 1)).length
        + (Value.renderMembers l (depth + 1) members).length) < fuel := by
      simp only [Value.render, List.length_cons, List.length_append] at hfuel
      omega
    have hread := readMembers_renderMembers (closesValue_end l depth (by decide) rest) hend members
      name v h hleft [] (List.forall_mem_nil _) []
    have htext : (Value.object ((name, v) :: members)).render l depth ++ rest
        = '\x7b' :: (l.lineBreak (depth + 1) ++ (quotedText name ++ ':' :: (l.gap
          ++ v.render l (depth + 1) ++ (Value.renderMembers l (depth + 1) members
            ++ (l.lineBreak depth ++ '\x7d' :: rest))))) := by
      simp [Value.render]
    rw [List.nil_append, quotedText, List.cons_append] at hread
    rw [htext, quotedText, List.cons_append,
      readValue_object (isBlank_lineBreak l (depth + 1)) (by decide) (by decide), hread]
    rfl

/-- Every value is read back from its text. -/
lemma readsBack (v : Value) : ReadsBack v := by
  induction v with
  | null => exact readsBack_of_readScalar fun l depth rest _ => rfl
  | bool b =>
    cases b with
    | true => exact readsBack_of_readScalar fun l depth rest _ => rfl
    | false => exact readsBack_of_readScalar fun l depth rest _ => rfl
  | integer i =>
    refine readsBack_of_readScalar fun l depth rest hrest => ?_
    rw [Value.render, readScalar_integer i hrest]
  | text s =>
    refine readsBack_of_readScalar fun l depth rest _ => ?_
    rw [Value.render, readScalar_quotedText, ofValue]
  | array items ih => exact readsBack_array ih
  | object members ih => exact readsBack_object ih

/-- **A text that was written is read as what it was written for**, in either layout and with any
white space after it. -/
theorem ofText_toText (v : Value) (l : Layout) {blanks : List Char}
    (hblanks : ∀ c ∈ blanks, isBlank c = true) :
    ofText ((v.toText l).toList ++ blanks) = (ofValue v, true) := by
  have hread := readsBack v l 0 (2 * (v.render l 0 ++ blanks).length + 2) [] blanks
    (List.forall_mem_nil _) (closesValue_of_blanks hblanks) (by rw [List.length_append]; omega)
  have hend : skipBlanks blanks = [] := List.dropWhile_eq_nil_iff.2 hblanks
  rw [List.nil_append] at hread
  rw [Value.toText, String.toList_ofList, ofText, hread]
  simp [hend]

end Draft

end BuildTriage.Json
