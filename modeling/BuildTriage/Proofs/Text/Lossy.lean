import BuildTriage.Text.Utf8
import Mathlib.Algebra.Group.Nat.Defs
import Mathlib.Tactic.Lemma
import Mathlib.Tactic.SplitIfs

/-!
# Texts in replaced UTF-8

Reading bytes as UTF-8 with replacements neither hides nor invents a text: unless the text has the
replacement character in it, it stands in what is read exactly where its encoding stands in the
bytes (`infix_decodeLossy_iff`).

Towards the bytes, the reader keeps the invariant `State.Holds`: completing what it holds in any way
that it accepts spells a character. So the parts that it finds come from adjacent segments of the
bytes, and a character from its encoding (`Holds.parts_append`). Towards the text, no encoding
starts with a continuation byte. Whatever the reader was in the middle of, it gives that up before
an encoding, and reads the encoding from the ground state (`Holds.parts_utf8EncodeChar_append`).
-/

namespace BuildTriage.Text.Utf8

/-! ## The shape of encodings -/

/-- The last `k` bytes of the encoding of a code point that is at least as long. -/
def continuation : Nat → Nat → List UInt8
  | 0, _ => []
  | k + 1, n => UInt8.ofNat (0x80 + n / 64 ^ k % 64) :: continuation k n

/-- The code points with `k + 1` continuation bytes. -/
def Band : Nat → Nat → Prop
  | 0, n => 0x80 ≤ n ∧ n < 0x800
  | 1, n => 0x800 ≤ n ∧ n < 0x10000 ∧ (n < 0xD800 ∨ 0xE000 ≤ n)
  | 2, n => 0x10000 ≤ n ∧ n < 0x110000
  | _, _ => False

/-- The marker bits of a first byte with `k + 1` continuation bytes after it. -/
def marker : Nat → Nat
  | 0 => 0xC0
  | 1 => 0xE0
  | _ => 0xF0

lemma toNat_val_ofNat {n : Nat} (h : n.isValidChar) : (Char.ofNat n).val.toNat = n := by
  rw [Char.ofNat, dif_pos h]
  rfl

lemma utf8EncodeChar_of_lt {n : Nat} (h : n < 0x80) :
    String.utf8EncodeChar (Char.ofNat n) = [UInt8.ofNat n] := by
  have hvalid : n.isValidChar := .inl (by omega)
  simp only [String.utf8EncodeChar, toNat_val_ofNat hvalid]
  rw [if_pos (by omega)]

lemma utf8EncodeChar_of_band {k n : Nat} (h : Band k n) :
    String.utf8EncodeChar (Char.ofNat n)
      = UInt8.ofNat (marker k + n / 64 ^ (k + 1)) :: continuation (k + 1) n := by
  match k, h with
  | 0, ⟨hlow, hhigh⟩ =>
    have hvalid : n.isValidChar := .inl (by omega)
    have hlead : n / 64 % 32 = n / 64 := by omega
    simp only [String.utf8EncodeChar, toNat_val_ofNat hvalid]
    rw [if_neg (by omega), if_pos (by omega)]
    simp [marker, continuation, Nat.add_comm, hlead]
  | 1, ⟨hlow, hhigh, hsurrogate⟩ =>
    have hvalid : n.isValidChar := hsurrogate.imp id fun h => ⟨by omega, by omega⟩
    have hlead : n / 4096 % 16 = n / 4096 := by omega
    simp only [String.utf8EncodeChar, toNat_val_ofNat hvalid]
    rw [if_neg (by omega), if_neg (by omega), if_pos (by omega)]
    simp [marker, continuation, Nat.add_comm, hlead]
  | 2, ⟨hlow, hhigh⟩ =>
    have hvalid : n.isValidChar := .inr ⟨by omega, by omega⟩
    have hlead : n / 262144 % 8 = n / 262144 := by omega
    simp only [String.utf8EncodeChar, toNat_val_ofNat hvalid]
    rw [if_neg (by omega), if_neg (by omega), if_neg (by omega)]
    simp [marker, continuation, Nat.add_comm, hlead]

lemma band_of_le {n : Nat} (hvalid : n.isValidChar) (h : 0x80 ≤ n) : ∃ k, Band k n := by
  rw [Nat.isValidChar] at hvalid
  by_cases htwo : n < 0x800
  · exact ⟨0, h, htwo⟩
  by_cases hthree : n < 0x10000
  · exact ⟨1, by omega, hthree, by omega⟩
  · exact ⟨2, by omega, by omega⟩

/-- A character is a single byte, or a first byte and its continuation bytes. -/
lemma utf8EncodeChar_cases (c : Char) :
    (c.toNat < 0x80 ∧ String.utf8EncodeChar c = [UInt8.ofNat c.toNat]) ∨
      ∃ k, Band k c.toNat ∧ String.utf8EncodeChar c
        = UInt8.ofNat (marker k + c.toNat / 64 ^ (k + 1)) :: continuation (k + 1) c.toNat := by
  have hc : Char.ofNat c.toNat = c := Char.ofNat_toNat c
  by_cases h : c.toNat < 0x80
  · have hencode := utf8EncodeChar_of_lt h
    exact .inl ⟨h, by rwa [hc] at hencode⟩
  · have hvalid : c.toNat.isValidChar := c.valid
    obtain ⟨k, hband⟩ := band_of_le hvalid (Nat.le_of_not_lt h)
    have hencode := utf8EncodeChar_of_band hband
    exact .inr ⟨k, hband, by rwa [hc] at hencode⟩

/-- The encoding of a text is that of its characters one after the other. -/
lemma toList_toUTF8 (text : String) :
    text.toUTF8.data.toList = text.toList.flatMap String.utf8EncodeChar := by
  rw [String.toUTF8_eq_toByteArray, ← String.utf8Encode_toList, List.utf8Encode,
    List.toList_data_toByteArray]

/-! ## First bytes -/

/-- The bits that a first byte with `k + 1` continuation bytes may carry. -/
def Leads : Nat → Nat → Prop
  | 0, value => 2 ≤ value ∧ value < 0x20
  | 1, value => value < 0x10
  | 2, value => value < 5
  | _, _ => False

/-- The least byte that may follow a first byte. -/
def secondLow : Nat → Nat → UInt8
  | 1, value => if value = 0 then 0xA0 else 0x80
  | 2, value => if value = 0 then 0x90 else 0x80
  | _, _ => 0x80

/-- The greatest byte that may follow a first byte. -/
def secondHigh : Nat → Nat → UInt8
  | 1, value => if value = 0xD then 0x9F else 0xBF
  | 2, value => if value = 4 then 0x8F else 0xBF
  | _, _ => 0xBF

lemma le_secondLow (k value : Nat) : 0x80 ≤ (secondLow k value).toNat := by
  unfold secondLow
  split
  · split <;> decide
  · split <;> decide
  · decide

lemma secondHigh_le (k value : Nat) : (secondHigh k value).toNat ≤ 0xBF := by
  unfold secondHigh
  split
  · split <;> decide
  · split <;> decide
  · decide

/-- The state after a first byte. -/
def State.begun (k value : Nat) : State :=
  .within value k (secondLow k value) (secondHigh k value)

/-- The bounds on the second byte keep out exactly what no encoding of this length spells. -/
lemma band_iff {k n : Nat} :
    Band k n ↔ Leads k (n / 64 ^ (k + 1)) ∧
      (secondLow k (n / 64 ^ (k + 1))).toNat ≤ 0x80 + n / 64 ^ k % 64 ∧
      0x80 + n / 64 ^ k % 64 ≤ (secondHigh k (n / 64 ^ (k + 1))).toNat := by
  match k with
  | 0 =>
    simp only [Leads, Band, secondLow, secondHigh, UInt8.reduceToNat]
    omega
  | 1 =>
    simp only [Leads, Band, secondLow, secondHigh]
    split_ifs <;> simp only [UInt8.reduceToNat] <;> omega
  | 2 =>
    simp only [Leads, Band, secondLow, secondHigh]
    split_ifs <;> simp only [UInt8.reduceToNat] <;> omega
  | _ + 3 => simp only [Leads, Band, false_and]

lemma start_of_leads {b : UInt8} {k value : Nat} (h : Leads k value)
    (hb : b.toNat = marker k + value) : State.start b = ([], .begun k value) := by
  simp only [State.start, State.begun, UInt8.lt_iff_toNat_lt, ← UInt8.toNat_inj,
    UInt8.reduceToNat, hb]
  match k, h with
  | 0, ⟨hlow, hhigh⟩ =>
    simp only [marker, secondLow, secondHigh]
    rw [if_neg (by omega), if_neg (by omega), if_pos (by omega), Nat.add_sub_cancel_left]
  | 1, h =>
    simp only [Leads, marker, secondLow, secondHigh] at h ⊢
    rw [if_neg (by omega), if_neg (by omega), if_neg (by omega), Nat.add_sub_cancel_left]
    by_cases hfirst : value = 0
    · subst hfirst
      rfl
    by_cases hlast : value = 0xD
    · subst hlast
      rfl
    rw [if_neg (by omega), if_neg (by omega), if_pos (by omega), if_neg hfirst, if_neg hlast]
  | 2, h =>
    simp only [Leads, marker, secondLow, secondHigh] at h ⊢
    rw [if_neg (by omega), if_neg (by omega), if_neg (by omega), if_neg (by omega),
      if_neg (by omega), if_neg (by omega), Nat.add_sub_cancel_left]
    by_cases hfirst : value = 0
    · subst hfirst
      rfl
    by_cases hlast : value = 4
    · subst hlast
      rfl
    rw [if_neg (by omega), if_pos (by omega), if_neg hfirst, if_neg hlast]

lemma start_cases (b : UInt8) :
    (b.toNat < 0x80 ∧ State.start b = ([some (Char.ofNat b.toNat)], .ground)) ∨
      State.start b = ([none], .ground) ∨
      ∃ k value, Leads k value ∧ b.toNat = marker k + value := by
  by_cases hone : b.toNat < 0x80
  · exact .inl ⟨hone, if_pos hone⟩
  by_cases htwo : 0xC2 ≤ b.toNat ∧ b.toNat < 0xE0
  · exact .inr (.inr ⟨0, b.toNat - 0xC0, ⟨by omega, by omega⟩, by simp only [marker]; omega⟩)
  by_cases hthree : 0xE0 ≤ b.toNat ∧ b.toNat < 0xF0
  · exact .inr (.inr ⟨1, b.toNat - 0xE0, by simp only [Leads]; omega,
      by simp only [marker]; omega⟩)
  by_cases hfour : 0xF0 ≤ b.toNat ∧ b.toNat < 0xF5
  · exact .inr (.inr ⟨2, b.toNat - 0xF0, by simp only [Leads]; omega,
      by simp only [marker]; omega⟩)
  refine .inr (.inl ?_)
  simp only [State.start, UInt8.lt_iff_toNat_lt, ← UInt8.toNat_inj, UInt8.reduceToNat]
  split_ifs <;> first | rfl | omega

lemma marker_le (k : Nat) : 0xC0 ≤ marker k := by
  match k with
  | 0 | 1 | _ + 2 => simp [marker]

lemma toNat_ofNat_marker {k value : Nat} (h : Leads k value) :
    (UInt8.ofNat (marker k + value)).toNat = marker k + value := by
  have hlt : marker k + value < 256 := by
    match k, h with
    | 0, h | 1, h | 2, h =>
      simp only [Leads, marker] at h ⊢
      omega
  rw [UInt8.toNat_ofNat', Nat.mod_eq_of_lt hlt]

/-- No encoding starts with a continuation byte. -/
lemma exists_utf8EncodeChar_eq_cons (c : Char) :
    ∃ b tail, String.utf8EncodeChar c = b :: tail ∧ (b.toNat < 0x80 ∨ 0xBF < b.toNat) := by
  rcases utf8EncodeChar_cases c with ⟨hlt, hencode⟩ | ⟨k, hband, hencode⟩
  · refine ⟨_, _, hencode, .inl ?_⟩
    rw [UInt8.toNat_ofNat']
    omega
  · refine ⟨_, _, hencode, .inr ?_⟩
    rw [toNat_ofNat_marker (band_iff.1 hband).1]
    exact Nat.le_add_right_of_le (marker_le k)

/-! ## What the reader holds -/

/-- What the bytes read since the last part mean to the reader: nothing between two sequences, and
within one that the characters it still accepts are encoded by these bytes and continuation
bytes. -/
def State.Holds : State → List UInt8 → Prop
  | .ground, held => held = []
  | .within value more low high, held =>
    0x80 ≤ low.toNat ∧ high.toNat ≤ 0xBF ∧
      ∀ n, n / 64 ^ (more + 1) = value → low.toNat ≤ 0x80 + n / 64 ^ more % 64 →
        0x80 + n / 64 ^ more % 64 ≤ high.toNat →
          String.utf8EncodeChar (Char.ofNat n) = held ++ continuation (more + 1) n

/-- A part of a text together with the bytes that it is read from. -/
inductive Segment where
  | character (c : Char)
  | malformed (bytes : List UInt8)

def Segment.part : Segment → Part
  | character c => some c
  | malformed _ => none

def Segment.bytes : Segment → List UInt8
  | character c => String.utf8EncodeChar c
  | malformed bytes => bytes

lemma begun_holds {b : UInt8} {k value : Nat} (h : Leads k value)
    (hb : b.toNat = marker k + value) : (State.begun k value).Holds [b] := by
  refine ⟨le_secondLow k value, secondHigh_le k value, fun n hn hlow hhigh => ?_⟩
  subst hn
  rw [utf8EncodeChar_of_band (band_iff.2 ⟨h, hlow, hhigh⟩), ← hb, UInt8.ofNat_toNat]
  rfl

/-- A first byte is a segment of its own, or it begins a sequence that is then held. -/
lemma start_segments (b : UInt8) :
    ∃ (segments : List Segment) (held : List UInt8),
      (State.start b).1 = segments.map Segment.part ∧
      [b] = segments.flatMap Segment.bytes ++ held ∧ (State.start b).2.Holds held := by
  rcases start_cases b with ⟨hlt, hstart⟩ | hstart | ⟨k, value, hleads, hb⟩
  · have hencode := utf8EncodeChar_of_lt hlt
    rw [UInt8.ofNat_toNat] at hencode
    rw [hstart]
    exact ⟨[.character _], [], rfl, by simp [Segment.bytes, hencode], rfl⟩
  · rw [hstart]
    exact ⟨[.malformed [b]], [], rfl, rfl, rfl⟩
  · rw [start_of_leads hleads hb]
    exact ⟨[], [b], rfl, rfl, begun_holds hleads hb⟩

/-- The bits of a code point before its last `k` continuation bytes, byte by byte. -/
lemma div_eq_of_div_succ {n k value x : Nat} (hx : x < 64)
    (h : n / 64 ^ k = value * 64 + x) : n / 64 ^ (k + 1) = value ∧ n / 64 ^ k % 64 = x := by
  rw [Nat.pow_succ, ← Nat.div_div_eq_div_mul, h]
  omega

lemma div_mul_add_mod (n k : Nat) : n / 64 ^ (k + 1) * 64 + n / 64 ^ k % 64 = n / 64 ^ k := by
  rw [Nat.pow_succ, ← Nat.div_div_eq_div_mul]
  omega

namespace State

/-- A byte completes what was held, joins it or gives it up, and what is held then has its meaning
again. -/
lemma Holds.step {state : State} {held : List UInt8} (h : state.Holds held) (b : UInt8) :
    ∃ (segments : List Segment) (rest : List UInt8),
      (state.step b).1 = segments.map Segment.part ∧
      held ++ [b] = segments.flatMap Segment.bytes ++ rest ∧ (state.step b).2.Holds rest := by
  cases state with
  | ground =>
    obtain rfl : held = [] := h
    exact start_segments b
  | within value more low high =>
    obtain ⟨hlow, hhigh, hspells⟩ := h
    by_cases hbounds : low ≤ b ∧ b ≤ high
    · have hlowb := UInt8.le_iff_toNat_le.1 hbounds.1
      have hhighb := UInt8.le_iff_toNat_le.1 hbounds.2
      have hb : UInt8.ofNat (0x80 + (b.toNat - 0x80)) = b := by
        rw [Nat.add_sub_cancel' (by omega), UInt8.ofNat_toNat]
      -- The code points still accepted before the byte with the byte's bits next are those still
      -- accepted after it, and the byte is the first of their continuation bytes.
      have hnext : ∀ n, n / 64 ^ more = value * 64 + (b.toNat - 0x80) →
          String.utf8EncodeChar (Char.ofNat n) = held ++ b :: continuation more n := by
        intro n hn
        obtain ⟨hvalue, hx⟩ := div_eq_of_div_succ (by omega) hn
        rw [hspells n hvalue (by omega) (by omega), continuation, hx, hb]
      simp only [State.step, if_pos hbounds]
      cases more with
      | zero =>
        have hencode := hnext (value * 64 + (b.toNat - 0x80)) (by simp)
        exact ⟨[.character _], [], rfl, by simp [Segment.bytes, hencode, continuation], rfl⟩
      | succ more =>
        refine ⟨[], held ++ [b], rfl, rfl, by decide, by decide, fun n hn _ _ => ?_⟩
        rw [hnext n hn, List.append_assoc, List.singleton_append]
    · obtain ⟨segments, rest, hparts, hbytes, hrest⟩ := start_segments b
      simp only [State.step, if_neg hbounds]
      refine ⟨.malformed held :: segments, rest, ?_, ?_, hrest⟩
      · rw [hparts]
        rfl
      · rw [hbytes, List.flatMap_cons, List.append_assoc]
        rfl

/-- Reading bytes cuts them into segments, apart from what the reader then holds. -/
lemma Holds.parts_append {state : State} {held : List UInt8} (h : state.Holds held)
    (bytes : List UInt8) :
    ∃ (segments : List Segment) (next : State) (rest : List UInt8),
      (∀ more, state.parts (bytes ++ more) = segments.map Segment.part ++ next.parts more) ∧
      held ++ bytes = segments.flatMap Segment.bytes ++ rest ∧ next.Holds rest := by
  induction bytes generalizing state held with
  | nil => exact ⟨[], state, held, fun _ => rfl, by simp, h⟩
  | cons b bytes ih =>
    obtain ⟨first, held', hparts, hbytes, hheld⟩ := h.step b
    obtain ⟨segments, next, rest, hmore, hall, hrest⟩ := ih hheld
    refine ⟨first ++ segments, next, rest, fun more => ?_, ?_, hrest⟩
    · rw [List.cons_append, parts]
      simp only [hmore, hparts, List.map_append, List.append_assoc]
    · rw [List.append_cons, hbytes, List.append_assoc, hall, List.flatMap_append,
        List.append_assoc]

/-- The parts of a text come from adjacent segments of its bytes. -/
lemma parts_segments (bytes : List UInt8) :
    ∃ segments : List Segment, State.ground.parts bytes = segments.map Segment.part ∧
      bytes = segments.flatMap Segment.bytes := by
  have hground : State.ground.Holds [] := rfl
  obtain ⟨segments, next, rest, hmore, hbytes, hrest⟩ := hground.parts_append bytes
  have hparts : State.ground.parts bytes = segments.map Segment.part ++ next.finish := by
    simpa [State.parts] using hmore []
  cases next with
  | ground =>
    obtain rfl : rest = [] := hrest
    exact ⟨segments, by simpa [finish] using hparts, by simpa using hbytes⟩
  | within value more low high =>
    refine ⟨segments ++ [.malformed rest], ?_, ?_⟩
    · rw [hparts, List.map_append]
      rfl
    · rw [List.flatMap_append, ← List.nil_append bytes, hbytes]
      simp [Segment.bytes]

/-! ## Reading an encoding -/

/-- Within a sequence the next continuation byte of a code point adds its bits, if it is in
bounds. -/
lemma step_continuation {n k : Nat} {low high : UInt8} (hlow : low.toNat ≤ 0x80 + n / 64 ^ k % 64)
    (hhigh : 0x80 + n / 64 ^ k % 64 ≤ high.toNat) :
    (within (n / 64 ^ (k + 1)) k low high).step (UInt8.ofNat (0x80 + n / 64 ^ k % 64))
      = match k with
        | 0 => ([some (Char.ofNat n)], ground)
        | more + 1 => ([], within (n / 64 ^ (more + 1)) more 0x80 0xBF) := by
  have hb : (UInt8.ofNat (0x80 + n / 64 ^ k % 64)).toNat = 0x80 + n / 64 ^ k % 64 := by
    rw [UInt8.toNat_ofNat']
    omega
  have hbounds : low ≤ UInt8.ofNat (0x80 + n / 64 ^ k % 64) ∧
      UInt8.ofNat (0x80 + n / 64 ^ k % 64) ≤ high := by
    rw [UInt8.le_iff_toNat_le, UInt8.le_iff_toNat_le, hb]
    exact ⟨hlow, hhigh⟩
  simp only [step, if_pos hbounds, hb, Nat.add_sub_cancel_left, div_mul_add_mod]
  cases k with
  | zero => simp
  | succ more => rfl

/-- Within a sequence the continuation bytes of a code point complete it, if the next one is in
bounds. -/
lemma parts_continuation {n : Nat} (more : Nat) {low high : UInt8}
    (hlow : low.toNat ≤ 0x80 + n / 64 ^ more % 64) (hhigh : 0x80 + n / 64 ^ more % 64 ≤ high.toNat)
    (rest : List UInt8) :
    (within (n / 64 ^ (more + 1)) more low high).parts (continuation (more + 1) n ++ rest)
      = some (Char.ofNat n) :: ground.parts rest := by
  induction more generalizing low high with
  | zero =>
    rw [continuation, List.cons_append, parts, step_continuation hlow hhigh]
    rfl
  | succ more ih =>
    have hmore : n / 64 ^ more % 64 < 64 := Nat.mod_lt _ (by decide)
    rw [continuation, List.cons_append, parts, step_continuation hlow hhigh]
    exact ih (Nat.le_add_right _ _) (Nat.add_le_add_left (Nat.le_of_lt_succ hmore) 0x80)

/-- From the ground state the encoding of a character is read as the character. -/
lemma parts_utf8EncodeChar_append (c : Char) (rest : List UInt8) :
    State.ground.parts (String.utf8EncodeChar c ++ rest) = some c :: State.ground.parts rest := by
  rcases utf8EncodeChar_cases c with ⟨hlt, hencode⟩ | ⟨k, hband, hencode⟩
  · have hb : UInt8.ofNat c.toNat < 0x80 := by
      rw [UInt8.lt_iff_toNat_lt, UInt8.toNat_ofNat']
      simp
      omega
    have hc : (UInt8.ofNat c.toNat).toNat = c.toNat := by
      rw [UInt8.toNat_ofNat']
      omega
    rw [hencode, List.singleton_append, State.parts]
    simp only [step, start, if_pos hb, hc, Char.ofNat_toNat, List.singleton_append]
  · obtain ⟨hleads, hlow, hhigh⟩ := band_iff.1 hband
    have hstart := start_of_leads hleads (toNat_ofNat_marker hleads)
    rw [hencode, List.cons_append, State.parts]
    simp only [step, hstart, List.nil_append, begun]
    rw [parts_continuation k hlow hhigh, Char.ofNat_toNat]

/-- Whatever the reader is in the middle of, it gives that up before an encoding. -/
lemma Holds.parts_utf8EncodeChar_append {state : State} {held : List UInt8} (h : state.Holds held)
    (c : Char) (rest : List UInt8) :
    state.parts (String.utf8EncodeChar c ++ rest)
      = state.finish ++ State.ground.parts (String.utf8EncodeChar c ++ rest) := by
  cases state with
  | ground => rfl
  | within value more low high =>
    obtain ⟨hlow, hhigh, -⟩ := h
    obtain ⟨b, tail, hencode, hb⟩ := exists_utf8EncodeChar_eq_cons c
    have hbounds : ¬(low ≤ b ∧ b ≤ high) := by
      rw [UInt8.le_iff_toNat_le, UInt8.le_iff_toNat_le]
      omega
    rw [hencode, List.cons_append, parts, parts]
    simp only [State.step, if_neg hbounds]
    rfl

lemma parts_encoding_append (text : List Char) (rest : List UInt8) :
    State.ground.parts (text.flatMap String.utf8EncodeChar ++ rest)
      = text.map some ++ State.ground.parts rest := by
  induction text with
  | nil => rfl
  | cons c text ih =>
    rw [List.flatMap_cons, List.append_assoc, parts_utf8EncodeChar_append, ih, List.map_cons,
      List.cons_append]

end State

/-! ## Texts in what is read -/

/-- A text without the replacement character is read from its encoding only. -/
lemma flatMap_bytes_of_map_part {segments : List Segment} {text : List Char}
    (h : segments.map (fun segment => segment.part.getD '\ufffd') = text)
    (htext : '\ufffd' ∉ text) :
    segments.flatMap Segment.bytes = text.flatMap String.utf8EncodeChar := by
  subst h
  induction segments with
  | nil => rfl
  | cons segment segments ih =>
    simp only [List.map_cons, List.mem_cons, not_or] at htext
    cases segment with
    | character c =>
      rw [List.flatMap_cons, ih htext.2]
      rfl
    | malformed bytes => exact absurd rfl htext.1

/-- A text without the replacement character stands in the bytes read with replacements exactly
where its encoding stands in the bytes. -/
theorem infix_decodeLossy_iff {text : List Char} (htext : '\ufffd' ∉ text) (bytes : List UInt8) :
    text <:+: decodeLossy bytes ↔ text.flatMap String.utf8EncodeChar <:+: bytes := by
  rw [decodeLossy, parts_eq]
  constructor
  · rintro ⟨front, back, hread⟩
    obtain ⟨segments, hparts, rfl⟩ := State.parts_segments bytes
    rw [hparts, List.map_map, eq_comm, List.map_eq_append_iff] at hread
    obtain ⟨init, last, rfl, hinit, -⟩ := hread
    rw [List.map_eq_append_iff] at hinit
    obtain ⟨first, middle, rfl, -, hmiddle⟩ := hinit
    refine ⟨first.flatMap Segment.bytes, last.flatMap Segment.bytes, ?_⟩
    rw [← flatMap_bytes_of_map_part hmiddle htext, List.flatMap_append, List.flatMap_append]
  · rintro ⟨front, back, rfl⟩
    cases text with
    | nil => exact List.nil_infix
    | cons c text =>
      have hground : State.ground.Holds [] := rfl
      obtain ⟨segments, next, rest, hmore, -, hrest⟩ := hground.parts_append front
      have hresume := hrest.parts_utf8EncodeChar_append c
        (text.flatMap String.utf8EncodeChar ++ back)
      rw [← List.append_assoc, ← List.flatMap_cons, State.parts_encoding_append] at hresume
      rw [List.append_assoc, hmore, hresume]
      refine ⟨(segments.map Segment.part ++ next.finish).map (·.getD '\ufffd'),
        (State.ground.parts back).map (·.getD '\ufffd'), ?_⟩
      simp [Function.comp_def]

example : decodeLossy [0xE2, 0x82, 0x61] = ['\ufffd', 'a'] := by decide

end BuildTriage.Text.Utf8
