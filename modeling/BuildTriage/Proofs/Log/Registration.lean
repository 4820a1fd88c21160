import BuildTriage.Log.PatternSet
import Mathlib.Data.List.Nodup
import Mathlib.Tactic.Lemma

/-!
# Registering patterns

A pattern set keeps its patterns in a list and beside it an index from ids to positions. The two
agree (`PatternSet.Consistent`) in the set without a pattern, and a registration keeps them in
agreement, whether it succeeds or fails (`PatternSet.Consistent.register_cases`); so they agree in
every set that registrations can make (`PatternSet.ofRegistrations_consistent`). A registration fails
exactly if its text is malformed or known as an id (`PatternSet.Consistent.register_eq_error_iff`).
-/

namespace BuildTriage

/-! ## Sets whose index agrees with the list -/

namespace PatternSet

/-- The index gives each id the position of its pattern, and no id is registered twice. -/
structure Consistent (s : PatternSet) : Prop where
  position?_eq : ∀ id, s.position? id = s.ids.idxOf? id
  nodup : s.ids.Nodup

lemma empty_consistent : empty.Consistent where
  position?_eq id := by simp [position?, ids, empty]
  nodup := by simp [ids, empty]

variable {s : PatternSet}

lemma Consistent.contains_iff (h : s.Consistent) (id : String) :
    s.index.contains id = true ↔ id ∈ s.ids := by
  have hposition := h.position?_eq id
  rw [position?] at hposition
  rw [Std.HashMap.contains_eq_isSome_getElem?, hposition, List.isSome_idxOf?]

lemma ids_append (s : PatternSet) (p : Pattern) (index : Std.HashMap String Nat) :
    ids ⟨s.patterns ++ [p], index⟩ = s.ids ++ [p.id] := by
  rw [ids, List.map_append, List.map_singleton, ids]

/-- A pattern whose id is taken is refused. -/
lemma Consistent.insert_of_mem (h : s.Consistent) {p : Pattern} (hp : p.id ∈ s.ids) :
    s.insert p = .error (.duplicate p.id) := by
  rw [insert, if_pos ((h.contains_iff p.id).2 hp)]

/-- A pattern whose id is new comes last. -/
lemma Consistent.insert_of_notMem (h : s.Consistent) {p : Pattern} (hp : p.id ∉ s.ids) :
    ∃ t, s.insert p = .ok t ∧ t.patterns = s.patterns ++ [p] ∧ t.Consistent := by
  have hcontains : ¬s.index.contains p.id = true := fun hin => hp ((h.contains_iff p.id).1 hin)
  refine ⟨⟨s.patterns ++ [p], s.index.insert p.id s.patterns.length⟩, ?_, rfl, ?_, ?_⟩
  · rw [insert, if_neg hcontains]
  · intro id
    have hposition := h.position?_eq id
    rw [position?] at hposition
    rw [position?, Std.HashMap.getElem?_insert, hposition, ids_append, List.idxOf?,
      List.findIdx?_append, ← List.idxOf?]
    by_cases hid : p.id = id
    · have hnone : s.ids.idxOf? id = none := List.idxOf?_eq_none_iff.2 (hid ▸ hp)
      have hlength : s.ids.length = s.patterns.length := by rw [ids, List.length_map]
      simp [hid, hnone, hlength]
    · simp [hid]
  · have hdisjoint : ∀ a ∈ s.ids, ∀ b ∈ [p.id], a ≠ b := by
      intro a ha b hb hab
      rw [List.mem_singleton.1 hb] at hab
      exact hp (hab ▸ ha)
    rw [ids_append]
    exact List.nodup_append.2 ⟨h.nodup, List.nodup_singleton _, hdisjoint⟩

end PatternSet

/-! ## Registrations -/

/-- A text given for registration. -/
inductive Registration where
  | literal (text : String)
  | regex (source : String)
deriving DecidableEq, Repr

/-- The pattern of the text, if it is well-formed. -/
def Registration.pattern? : Registration → Option Pattern
  | .literal text => some (.literal text)
  | .regex source => (Pattern.ofRegex source).toOption

def Registration.text : Registration → String
  | .literal text | .regex text => text

lemma Pattern.eq_invalidRegex_of_ofRegex {source : String} {e : PatternError}
    (h : ofRegex source = .error e) : e = .invalidRegex source := by
  unfold ofRegex at h
  split at h
  · cases h
  · cases h
    rfl

/-- A pattern is known by the text that was registered. -/
lemma Registration.id_of_pattern? {r : Registration} {p : Pattern} (h : r.pattern? = some p) :
    p.id = r.text := by
  cases r with
  | literal text =>
    obtain rfl := Option.some.inj h
    rfl
  | regex source =>
    simp only [pattern?, Pattern.ofRegex] at h
    split at h
    · obtain rfl := Option.some.inj h
      rfl
    · cases h

namespace Registration

/-- The text is malformed, or it is one of the ids that are taken. -/
def Fails (r : Registration) (taken : List String) : Prop :=
  r.pattern? = none ∨ r.text ∈ taken

/-- The failure that is reported: a malformed text is reported as such, whether its id is taken or
not, and any other as a duplicate. -/
def failure (r : Registration) : PatternError :=
  if r.pattern? = none then .invalidRegex r.text else .duplicate r.text

/-- Where there is a pattern, it is its id that is taken. -/
lemma Fails.id_mem {r : Registration} {taken : List String} (h : r.Fails taken) {p : Pattern}
    (hp : r.pattern? = some p) : p.id ∈ taken := by
  rw [id_of_pattern? hp]
  apply h.resolve_left
  rw [hp]
  exact Option.some_ne_none p

end Registration

namespace PatternSet

/-- Registers a text. -/
def register (s : PatternSet) : Registration → Except PatternError PatternSet
  | .literal text => s.insertLiteral text
  | .regex source => s.insertRegex source

/-- The set after a registration, which leaves it as it was if it fails. -/
def registered (s : PatternSet) (r : Registration) : PatternSet :=
  match s.register r with
  | .ok t => t
  | .error _ => s

/-- The set that some registrations make, failures among them. -/
def ofRegistrations (registrations : List Registration) : PatternSet :=
  registrations.foldl registered empty

variable {s : PatternSet}

lemma register_of_pattern?_eq_some {r : Registration} {p : Pattern} (hp : r.pattern? = some p) :
    s.register r = s.insert p := by
  cases r with
  | literal text =>
    obtain rfl := Option.some.inj hp
    rfl
  | regex source =>
    rw [Registration.pattern?] at hp
    rw [register, insertRegex]
    cases hsource : Pattern.ofRegex source with
    | error e => rw [hsource] at hp; cases hp
    | ok q => rw [hsource] at hp; cases hp; rfl

/-- A text that is malformed is refused as such. -/
lemma register_of_pattern?_eq_none {r : Registration} (hp : r.pattern? = none) :
    s.register r = .error (.invalidRegex r.text) := by
  cases r with
  | literal text => cases hp
  | regex source =>
    rw [Registration.pattern?] at hp
    rw [register, insertRegex]
    cases hsource : Pattern.ofRegex source with
    | error e => rw [Pattern.eq_invalidRegex_of_ofRegex hsource]; rfl
    | ok q => rw [hsource] at hp; cases hp

lemma Consistent.register_of_fails (h : s.Consistent) {r : Registration} (hr : r.Fails s.ids) :
    s.register r = .error r.failure := by
  rw [Registration.failure]
  cases hp : r.pattern? with
  | none => exact register_of_pattern?_eq_none hp
  | some p =>
    rw [register_of_pattern?_eq_some hp, h.insert_of_mem (hr.id_mem hp),
      Registration.id_of_pattern? hp]
    rfl

/-- A registration that does not fail adds the pattern of its text at the end. -/
lemma Consistent.register_of_not_fails (h : s.Consistent) {r : Registration}
    (hr : ¬r.Fails s.ids) :
    ∃ p t, r.pattern? = some p ∧ p.id ∉ s.ids ∧ s.register r = .ok t ∧
      t.patterns = s.patterns ++ [p] ∧ t.Consistent := by
  rw [Registration.Fails, not_or, ← ne_eq, Option.ne_none_iff_exists'] at hr
  obtain ⟨⟨p, hp⟩, htext⟩ := hr
  rw [← Registration.id_of_pattern? hp] at htext
  obtain ⟨t, ht, hpatterns, hconsistent⟩ := h.insert_of_notMem htext
  exact ⟨p, t, hp, htext, by rw [register_of_pattern?_eq_some hp, ht], hpatterns, hconsistent⟩

lemma Consistent.register_eq_error_iff (h : s.Consistent) (r : Registration) (e : PatternError) :
    s.register r = .error e ↔ r.Fails s.ids ∧ e = r.failure := by
  by_cases hr : r.Fails s.ids
  · rw [h.register_of_fails hr, Except.error.injEq, eq_comm]
    exact (and_iff_right hr).symm
  · obtain ⟨p, t, -, -, ht, -⟩ := h.register_of_not_fails hr
    rw [ht]
    refine iff_of_false ?_ fun hfails => hr hfails.1
    intro heq
    cases heq

/-- A registration adds the pattern of its text at the end, or it fails since there is none or its
id is taken. -/
lemma Consistent.register_cases (h : s.Consistent) (r : Registration) :
    (∃ p t, r.pattern? = some p ∧ p.id ∉ s.ids ∧ s.register r = .ok t ∧
        t.patterns = s.patterns ++ [p] ∧ t.Consistent) ∨
      (∃ e, s.register r = .error e ∧ ∀ p, r.pattern? = some p → p.id ∈ s.ids) := by
  by_cases hr : r.Fails s.ids
  · exact .inr ⟨_, h.register_of_fails hr, fun p hp => hr.id_mem hp⟩
  · exact .inl (h.register_of_not_fails hr)

lemma Consistent.registered (h : s.Consistent) (r : Registration) :
    (s.registered r).Consistent := by
  rw [PatternSet.registered]
  rcases h.register_cases r with ⟨_, t, _, _, ht, _, hconsistent⟩ | ⟨e, he, _⟩
  · rwa [ht]
  · rwa [he]

lemma Consistent.foldl_registered (h : s.Consistent) (registrations : List Registration) :
    (registrations.foldl PatternSet.registered s).Consistent := by
  induction registrations generalizing s with
  | nil => exact h
  | cons r rest ih => exact ih (h.registered r)

/-- Every set that registrations can make is consistent. -/
lemma ofRegistrations_consistent (registrations : List Registration) :
    (ofRegistrations registrations).Consistent :=
  empty_consistent.foldl_registered registrations

/-- Texts that are well-formed and new are all registered, in order. -/
lemma Consistent.insertAll_of_fresh (h : s.Consistent) (one : String → Registration)
    (hone : ∀ text, (one text).text = text) {texts : List String}
    (hwell : ∀ text ∈ texts, (one text).pattern?.isSome = true)
    (hfresh : (s.ids ++ texts).Nodup) :
    let t := (texts.map one).foldl PatternSet.registered s
    s.insertAll (fun s text => s.register (one text)) texts = (t, none) ∧
      t.ids = s.ids ++ texts ∧
      t.patterns = s.patterns ++ (texts.map one).filterMap Registration.pattern? := by
  induction texts generalizing s with
  | nil => exact ⟨rfl, by simp, by simp⟩
  | cons text rest ih =>
    obtain ⟨q, hq⟩ := Option.isSome_iff_exists.1 (hwell text (List.mem_cons_self ..))
    have hqid : q.id = text := (Registration.id_of_pattern? hq).trans (hone text)
    rcases h.register_cases (one text) with ⟨p, t, hp, hid, ht, hpatterns, hconsistent⟩ |
      ⟨e, he, hid⟩
    · obtain rfl : p = q := Option.some.inj (hp.symm.trans hq)
      have hids : t.ids = s.ids ++ [text] := by
        rw [ids, hpatterns, List.map_append, List.map_singleton, hqid, ids]
      have hrest : ∀ text ∈ rest, (one text).pattern?.isSome = true :=
        fun text htext => hwell text (List.mem_cons_of_mem _ htext)
      have hregistered : s.registered (one text) = t := by rw [PatternSet.registered, ht]
      obtain ⟨hinsert, hrestIds, hrestPatterns⟩ :=
        ih hconsistent hrest (by rwa [hids, List.append_assoc])
      rw [List.map_cons, List.foldl_cons, hregistered]
      refine ⟨?_, ?_, ?_⟩
      · rw [insertAll, ht]
        exact hinsert
      · rw [hrestIds, hids, List.append_assoc, List.singleton_append]
      · rw [hrestPatterns, hpatterns, List.append_assoc, List.singleton_append,
          List.filterMap_cons_some hq]
    · have hmem : text ∈ s.ids := hqid ▸ hid q hq
      exact absurd rfl ((List.nodup_append.1 hfresh).2.2 text hmem text (List.mem_cons_self ..))

end PatternSet

end BuildTriage
