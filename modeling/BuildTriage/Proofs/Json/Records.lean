import BuildTriage.Json.Decode
import BuildTriage.Proofs.Json.Grammar
import Mathlib.Algebra.Group.Int.Defs
import Mathlib.Data.List.Forall2

/-!
# Decoders that read back what was written

Each decoder reads a value back from the draft of its JSON form. For records this is put together
as the decoder is: a decoder of some fields reads them back from members with the names of these
fields (`RecordDecoder.ReadsBack`), which holds of a single field, and of a record where it holds of
its parts. From an object in which no name occurs twice such a decoder gives the record
(`RecordDecoder.ReadsBack.decoder`).
-/

namespace BuildTriage.Json

open Draft (ofValue ofMembers)

lemma bind_eq_ok {ε α β : Type} {x : Except ε α} {f : α → Except ε β} {b : β} :
    (x >>= f) = .ok b ↔ ∃ a, x = .ok a ∧ f a = .ok b := by
  cases x <;> simp [bind, Except.bind]

/-! ## Whole texts -/

/-- The text of a value is decoded as the draft of the value, whatever white space follows it. -/
theorem decodeText_toText_append {α : Type} (decode : Decoder α) (v : Value) (l : Layout)
    {tail : String} (htail : ∀ c ∈ tail.toList, Draft.isBlank c = true) :
    decodeText decode (v.toText l ++ tail) = decode (ofValue v) := by
  rw [decodeText, String.toList_append, Draft.ofText_toText v l htail]
  cases h : decode (ofValue v) <;> simp [h, bind, Except.bind, pure, Except.pure]

theorem decodeText_toText {α : Type} (decode : Decoder α) (v : Value) (l : Layout) :
    decodeText decode (v.toText l) = decode (ofValue v) := by
  have h : decodeText decode (v.toText l ++ "") = decode (ofValue v) :=
    decodeText_toText_append decode v l (List.forall_mem_nil _)
  rwa [String.append_empty] at h

lemma exists_of_decodeText_eq_ok {α : Type} {decode : Decoder α} {text : String} {a : α}
    (h : decodeText decode text = .ok a) : ∃ d, decode d = .ok a := by
  rw [decodeText] at h
  generalize Draft.ofText text.toList = read at h
  obtain ⟨d, clean⟩ := read
  obtain ⟨b, hb, hclean⟩ := bind_eq_ok.1 h
  cases clean with
  | false => cases hclean
  | true =>
    cases hclean
    exact ⟨d, hb⟩

/-! ## Numbers, options and names -/

/-- An integer that fits into a 64-bit word, with or without a sign, is the value of its digits. -/
lemma Numeral.value?_of_integer {i : Int} (hlow : -2 ^ 63 ≤ i) (hhigh : i < 2 ^ 64) :
    Numeral.value? { negative := i < 0, whole := Text.decimal i.natAbs } = some (.integer i) := by
  by_cases hsign : i < 0
  · have habs : -(i.natAbs : Int) = i := by omega
    have hrange : 0 < i.natAbs ∧ i.natAbs ≤ Nat.pow 2 63 := by
      simp only [Nat.pow_eq, Nat.reducePow]
      omega
    simp only [Numeral.value?, hsign, decide_true, Text.decimalValue_decimal]
    rw [if_neg (by simp), if_pos ⟨trivial, hrange⟩, habs]
  · have habs : (i.natAbs : Int) = i := by omega
    have hrange : i.natAbs < Nat.pow 2 64 := by
      simp only [Nat.pow_eq, Nat.reducePow]
      omega
    simp only [Numeral.value?, hsign, decide_false, Text.decimalValue_decimal]
    rw [if_pos ⟨rfl, hrange⟩, habs]

namespace Decoder

variable {α : Type}

lemma text_ofValue (s : String) : text (ofValue (.text s)) = .ok s :=
  rfl

lemma bool_ofValue (b : Bool) : bool (ofValue (.bool b)) = .ok b :=
  rfl

lemma integerWithin_ofValue {low high i : Int} (expected : String) (hmem : low ≤ i ∧ i ≤ high)
    (hlow : -2 ^ 63 ≤ low) (hhigh : high < 2 ^ 64) :
    integerWithin low high expected (ofValue (.integer i)) = .ok i := by
  have hvalue := Numeral.value?_of_integer (by omega : -2 ^ 63 ≤ i) (by omega)
  simp only [integerWithin, ofValue, hvalue]
  exact if_pos hmem

lemma int32_ofValue {i : Int} (hlow : -2 ^ 31 ≤ i) (hhigh : i < 2 ^ 31) :
    int32 (ofValue (.integer i)) = .ok i :=
  integerWithin_ofValue "i32" (by simp only [Nat.pow_eq]; omega) (by decide) (by decide)

lemma nat32_ofValue {n : Nat} (h : n < 2 ^ 32) : nat32 (ofValue (.integer n)) = .ok n := by
  rw [nat32, integerWithin_ofValue "u32" (by simp only [Nat.pow_eq]; omega) (by decide) (by decide)]
  rfl

/-- An integer that was read lies between the bounds. -/
lemma range_of_integerWithin {low high i : Int} {expected : String} {d : Draft}
    (h : integerWithin low high expected d = .ok i) : low ≤ i ∧ i ≤ high := by
  unfold integerWithin mismatch at h
  repeat' split at h
  all_goals first | (cases h; assumption) | cases h

lemma int32_range {d : Draft} {i : Int} (h : int32 d = .ok i) : -2 ^ 31 ≤ i ∧ i < 2 ^ 31 := by
  have hrange := range_of_integerWithin h
  simp only [Nat.pow_eq] at hrange
  omega

lemma nat32_lt {d : Draft} {n : Nat} (h : nat32 d = .ok n) : n < 2 ^ 32 := by
  unfold nat32 at h
  cases hread : integerWithin 0 (Nat.pow 2 32 - 1) "u32" d with
  | error e =>
    rw [hread] at h
    cases h
  | ok i =>
    rw [hread] at h
    cases h
    have hrange := range_of_integerWithin hread
    simp only [Nat.pow_eq] at hrange
    omega

lemma variant_ofValue {variants : List (String × α)} {name : String} {a : α}
    (h : variants.lookup name = some a) : variant variants (ofValue (.text name)) = .ok a := by
  simp [variant, ofValue, variantNamed, h]

end Decoder

namespace RecordDecoder

variable {α β : Type}

/-! ## Records -/

/-- The decoder takes the members for its fields, in the same order, and makes the value of them
wherever it finds their contents. -/
structure ReadsBack (r : RecordDecoder α) (ms : List (String × Value)) (a : α) : Prop where
  checks : List.Forall₂ (fun f m => f.1 = m.1 ∧ f.2 (ofValue m.2) = .ok ()) r.fields ms
  build : ∀ content : String → Option Draft, (∀ m ∈ ms, content m.1 = some (ofValue m.2)) →
    r.build content = .ok a

lemma readsBack_field {decode : Decoder α} {j : Value} {a : α} (name : String)
    (h : decode (ofValue j) = .ok a) : ReadsBack (field name decode) [(name, j)] a where
  checks := .cons ⟨rfl, by simp [h, Except.map]⟩ .nil
  build content hcontent := by
    have hname := hcontent (name, j) List.mem_cons_self
    simp only [field, hname, h]

lemma readsBack_optionalField {decode : Decoder α} {j : Value} {o : Option α} (name : String)
    (h : Decoder.optional decode (ofValue j) = .ok o) :
    ReadsBack (optionalField name decode) [(name, j)] o where
  checks := .cons ⟨rfl, by simp [h, Except.map]⟩ .nil
  build content hcontent := by
    have hname := hcontent (name, j) List.mem_cons_self
    simp only [optionalField, hname, h]

lemma ReadsBack.seq {f : RecordDecoder (α → β)} {x : RecordDecoder α}
    {fs xs : List (String × Value)} {g : α → β} {a : α} (hf : ReadsBack f fs g)
    (hx : ReadsBack x xs a) : ReadsBack (f <*> x) (fs ++ xs) (g a) where
  checks := List.rel_append hf.checks hx.checks
  build content hcontent := by
    have hg := hf.build content fun m hm => hcontent m (List.mem_append_left xs hm)
    have ha := hx.build content fun m hm => hcontent m (List.mem_append_right fs hm)
    show (do return (← f.build content) (← x.build content)) = Except.ok (g a)
    rw [hg, ha]
    rfl

lemma ReadsBack.map {x : RecordDecoder α} {xs : List (String × Value)} {a : α}
    (hx : ReadsBack x xs a) (g : α → β) : ReadsBack (g <$> x) xs (g a) :=
  ReadsBack.seq (f := RecordDecoder.pure g) ⟨.nil, fun _ _ => rfl⟩ hx

/-- The members of a record pass the checks of its fields and are found by their names. -/
lemma members_ofMembers {fields : List (String × Decoder Unit)} (ms : List (String × Value))
    (hchecks : ∀ m ∈ ms, ∃ check, fields.lookup m.1 = some check ∧ check (ofValue m.2) = .ok ())
    (hnodup : (ms.map Prod.fst).Nodup) (found : List (String × Draft))
    (hnew : ∀ m ∈ ms, found.lookup m.1 = none) :
    ∃ all, members fields found (ofMembers ms) = .ok all ∧
      (∀ m ∈ ms, all.lookup m.1 = some (ofValue m.2)) ∧
      ∀ name ∉ ms.map Prod.fst, all.lookup name = found.lookup name := by
  induction ms generalizing found with
  | nil => exact ⟨found, rfl, List.forall_mem_nil _, fun _ _ => rfl⟩
  | cons m ms ih =>
    obtain ⟨check, hlookup, hcheck⟩ := hchecks m List.mem_cons_self
    obtain ⟨hm, hms⟩ := List.nodup_cons.1 hnodup
    have hfresh := hnew m List.mem_cons_self
    have hne : ∀ n ∈ ms, (n.1 == m.1) = false := by
      intro n hn
      have hmem : n.1 ∈ ms.map Prod.fst := List.mem_map_of_mem hn
      exact beq_eq_false_iff_ne.2 fun heq => hm (heq ▸ hmem)
    obtain ⟨all, hread, hall, hother⟩ := ih (fun n hn => hchecks n (List.mem_cons_of_mem m hn)) hms
      ((m.1, ofValue m.2) :: found) fun n hn => by
        rw [List.lookup_cons, hne n hn]
        exact hnew n (List.mem_cons_of_mem m hn)
    refine ⟨all, ?_, ?_, ?_⟩
    · have htext : ofMembers (m :: ms) = (.text (some m.1), ofValue m.2) :: ofMembers ms := rfl
      rw [htext, members]
      simp only [hlookup, hfresh, hcheck]
      exact hread
    · refine List.forall_mem_cons.2 ⟨?_, hall⟩
      rw [hother m.1 hm, List.lookup_cons_self]
    · intro name hname
      have hhead : name ≠ m.1 := List.ne_of_not_mem_cons hname
      rw [hother name (List.not_mem_of_not_mem_cons hname), List.lookup_cons,
        beq_eq_false_iff_ne.2 hhead]

/-- The check of a field is found by its name. -/
lemma exists_check {fields : List (String × Decoder Unit)} {ms : List (String × Value)}
    (h : List.Forall₂ (fun f m => f.1 = m.1 ∧ f.2 (ofValue m.2) = .ok ()) fields ms)
    (hnodup : (ms.map Prod.fst).Nodup) :
    ∀ m ∈ ms, ∃ check, fields.lookup m.1 = some check ∧ check (ofValue m.2) = .ok () := by
  induction h with
  | nil => exact List.forall_mem_nil _
  | @cons f m fields ms hfm _ ih =>
    obtain ⟨hm, hms⟩ := List.nodup_cons.1 hnodup
    refine List.forall_mem_cons.2 ⟨⟨f.2, ?_, hfm.2⟩, fun n hn => ?_⟩
    · rw [← hfm.1, List.lookup_cons_self]
    · obtain ⟨check, hlookup, hcheck⟩ := ih hms n hn
      have hne : n.1 ≠ f.1 := fun heq => hm (hfm.1 ▸ heq ▸ List.mem_map_of_mem hn)
      refine ⟨check, ?_, hcheck⟩
      rw [List.lookup_cons, beq_eq_false_iff_ne.2 hne, hlookup]

/-- **A record is read back from an object of its fields.** -/
theorem ReadsBack.decoder {r : RecordDecoder α} {ms : List (String × Value)} {a : α}
    (h : ReadsBack r ms a) (hnodup : (ms.map Prod.fst).Nodup) (typeName : String) :
    r.decoder typeName (ofValue (.object ms)) = .ok a := by
  obtain ⟨all, hread, hall, -⟩ := members_ofMembers ms (exists_check h.checks hnodup) hnodup []
    fun _ _ => rfl
  rw [ofValue, RecordDecoder.decoder, hread]
  exact h.build _ hall

/-! ## What a decoder can give -/

/-- Whatever the decoder makes of the contents of its fields has the property. -/
def Yields (r : RecordDecoder α) (P : α → Prop) : Prop :=
  ∀ content a, r.build content = .ok a → P a

lemma yields_optionalField (name : String) {decode : Decoder α} {P : α → Prop}
    (h : ∀ d a, decode d = .ok a → P a) :
    Yields (optionalField name decode) fun o => ∀ a ∈ o, P a := by
  rintro content o hbuild a rfl
  simp only [optionalField] at hbuild
  split at hbuild
  · next d _ =>
    unfold Decoder.optional at hbuild
    split at hbuild
    · cases hbuild
    · cases hd : decode d with
      | error e =>
        rw [hd] at hbuild
        cases hbuild
      | ok b =>
        rw [hd] at hbuild
        cases hbuild
        exact h d a hd
  · cases hbuild

lemma Yields.seq {f : RecordDecoder (α → β)} {x : RecordDecoder α} {P : β → Prop} {Q : α → Prop}
    (hx : Yields x Q) (hf : Yields f fun g => ∀ a, Q a → P (g a)) : Yields (f <*> x) P := by
  intro content b hbuild
  obtain ⟨g, hg, hbuild⟩ := bind_eq_ok.1 hbuild
  obtain ⟨a, ha, hb⟩ := bind_eq_ok.1 hbuild
  cases hb
  exact hf content g hg a (hx content a ha)

/-- The last field adds nothing to what is to be shown. -/
lemma yields_seq {f : RecordDecoder (α → β)} {x : RecordDecoder α} {P : β → Prop}
    (hf : Yields f fun g => ∀ a, P (g a)) : Yields (f <*> x) P :=
  Yields.seq (fun _ _ _ => trivial) fun content g hg a (_ : True) => hf content g hg a

lemma yields_map {x : RecordDecoder α} {g : α → β} {P : β → Prop} (h : ∀ a, P (g a)) :
    Yields (g <$> x) P := by
  intro content b hbuild
  obtain ⟨_, hg, hbuild⟩ := bind_eq_ok.1 hbuild
  cases hg
  obtain ⟨a, -, hb⟩ := bind_eq_ok.1 hbuild
  cases hb
  exact h a

/-- Records that are read have the property. -/
lemma Yields.of_decoder {r : RecordDecoder α} {P : α → Prop} (hr : Yields r P) {typeName : String}
    {d : Draft} {a : α} (h : r.decoder typeName d = .ok a) : P a := by
  unfold decoder at h
  split at h
  · obtain ⟨found, -, hbuild⟩ := bind_eq_ok.1 h
    exact hr _ a hbuild
  · obtain ⟨found, -, hbuild⟩ := bind_eq_ok.1 h
    exact hr _ a hbuild
  · unfold mismatch at h
    split at h <;> cases h

end RecordDecoder

end BuildTriage.Json
