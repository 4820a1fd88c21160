import BuildTriage.Proofs.Log.Registration
import Mathlib.Data.Finset.Card

/-!
# The registry is a bijection

Patterns are registered by calls, which take one text, or several of one kind that are registered
one after the other up to the first that fails. The list of patterns and the index are updated
apart, and whatever calls there were and however they ended, each says what the other says:
positions and ids are in one-to-one correspondence, and a further call changes no position that was
assigned (`ofCalls_bijective`).

A call comes down to single registrations (`PatternSet.attempts`), so what every registration keeps
holds after all calls. Which ids are registered can be read off the registrations alone: those of
the patterns that were offered, whether they were accepted the first time or refused as duplicates
(`PatternSet.Consistent.mem_ids_foldl_registered_iff`).
-/

namespace BuildTriage

/-! ## Calls -/

/-- The registration of a text for a pattern of the kind. -/
def PatternKind.registration : PatternKind → String → Registration
  | .literal => .literal
  | .regex => .regex

lemma PatternKind.text_registration (kind : PatternKind) (text : String) :
    (kind.registration text).text = text := by
  cases kind <;> rfl

/-- A call that registers one text, or several of one kind up to the first that fails. -/
inductive RegistryCall where
  | one (r : Registration)
  | several (kind : PatternKind) (texts : List String)
deriving DecidableEq, Repr

namespace PatternSet

/-- Registers texts of one kind up to the first failure, which is returned with the set. -/
def insertSeveral (s : PatternSet) : PatternKind → List String → PatternSet × Option PatternError
  | .literal, texts => s.insertLiterals texts
  | .regex, sources => s.insertRegexes sources

/-- The set after a call, with the failure if there was one. -/
def call (s : PatternSet) : RegistryCall → PatternSet × Option PatternError
  | .one r =>
    match s.register r with
    | .ok t => (t, none)
    | .error e => (s, some e)
  | .several kind texts => s.insertSeveral kind texts

/-- The set that some calls make of the empty one, failures among them. -/
def ofCalls (calls : List RegistryCall) : PatternSet :=
  calls.foldl (fun s c => (s.call c).1) empty

/-! ## The registrations that calls come to -/

/-- The registrations that several texts come to: one for each up to the first that fails. -/
def attemptsOf (s : PatternSet) (kind : PatternKind) : List String → List Registration
  | [] => []
  | text :: rest =>
    kind.registration text ::
      match s.register (kind.registration text) with
      | .ok t => t.attemptsOf kind rest
      | .error _ => []

/-- The registrations that a call comes to. -/
def attempts (s : PatternSet) : RegistryCall → List Registration
  | .one r => [r]
  | .several kind texts => s.attemptsOf kind texts

/-- The registrations that some calls come to, in order. -/
def attemptsOfCalls (s : PatternSet) : List RegistryCall → List Registration
  | [] => []
  | c :: rest => s.attempts c ++ (s.call c).1.attemptsOfCalls rest

lemma insertSeveral_eq (s : PatternSet) (kind : PatternKind) (texts : List String) :
    s.insertSeveral kind texts
      = s.insertAll (fun s text => s.register (kind.registration text)) texts := by
  cases kind <;> rfl

lemma foldl_registered_attemptsOf (s : PatternSet) (kind : PatternKind) (texts : List String) :
    (s.insertSeveral kind texts).1 = (s.attemptsOf kind texts).foldl registered s := by
  rw [insertSeveral_eq]
  induction texts generalizing s with
  | nil => rfl
  | cons text rest ih =>
    rw [insertAll, attemptsOf, List.foldl_cons, registered]
    cases s.register (kind.registration text) with
    | error e => rfl
    | ok t => exact ih t

lemma call_eq_foldl_attempts (s : PatternSet) (c : RegistryCall) :
    (s.call c).1 = (s.attempts c).foldl registered s := by
  cases c with
  | one r =>
    rw [call, attempts, List.foldl_cons, List.foldl_nil, registered]
    cases s.register r <;> rfl
  | several kind texts => exact s.foldl_registered_attemptsOf kind texts

lemma foldl_call_eq_foldl_attempts (s : PatternSet) (calls : List RegistryCall) :
    calls.foldl (fun s c => (s.call c).1) s = (s.attemptsOfCalls calls).foldl registered s := by
  induction calls generalizing s with
  | nil => rfl
  | cons c rest ih =>
    rw [List.foldl_cons, ih, attemptsOfCalls, List.foldl_append, ← call_eq_foldl_attempts]

/-- Calls make no set that single registrations cannot make. -/
lemma ofCalls_eq_ofRegistrations (calls : List RegistryCall) :
    ofCalls calls = ofRegistrations (empty.attemptsOfCalls calls) :=
  empty.foldl_call_eq_foldl_attempts calls

lemma ofCalls_consistent (calls : List RegistryCall) : (ofCalls calls).Consistent := by
  rw [ofCalls_eq_ofRegistrations]
  exact ofRegistrations_consistent _

lemma ofCalls_append (calls more : List RegistryCall) :
    ofCalls (calls ++ more)
      = ((ofCalls calls).attemptsOfCalls more).foldl registered (ofCalls calls) := by
  rw [ofCalls, List.foldl_append, ← ofCalls, foldl_call_eq_foldl_attempts]

/-! ## Positions and ids -/

/-- The list of patterns and the index of a set say the same. -/
structure Bijective (s : PatternSet) : Prop where
  /-- No two patterns have the same id. -/
  nodup : s.ids.Nodup
  /-- An id has the position at which its pattern stands, and only that one. -/
  position?_eq_some_iff : ∀ id k, s.position? id = some k ↔ ∃ p, s.get? k = some p ∧ p.id = id
  /-- An id is known exactly if a pattern with it is in the list. -/
  contains_iff : ∀ id, s.contains id = true ↔ id ∈ s.ids

variable {s t : PatternSet}

lemma getElem?_ids_eq_some_iff {id : String} {k : Nat} :
    s.ids[k]? = some id ↔ ∃ p, s.get? k = some p ∧ p.id = id := by
  rw [ids, List.getElem?_map, Option.map_eq_some_iff, get?]

lemma Consistent.bijective (h : s.Consistent) : s.Bijective where
  nodup := h.nodup
  contains_iff := h.contains_iff
  position?_eq_some_iff id k := by
    rw [h.position?_eq, ← getElem?_ids_eq_some_iff, List.getElem?_eq_some_iff,
      List.idxOf?_eq_some_iff]
    constructor
    · rintro ⟨hk, hid, -⟩
      exact ⟨hk, hid⟩
    · rintro ⟨hk, hid⟩
      refine ⟨hk, hid, fun j hj heq => ?_⟩
      rw [← hid, h.nodup.getElem_inj_iff] at heq
      omega

/-! ## What further registrations keep -/

/-- A registration puts a pattern behind the others, if anything. -/
lemma Consistent.patterns_prefix_registered (h : s.Consistent) (r : Registration) :
    s.patterns <+: (s.registered r).patterns := by
  rw [PatternSet.registered]
  rcases h.register_cases r with ⟨p, t, -, -, ht, hpatterns, -⟩ | ⟨e, he, -⟩
  · rw [ht, hpatterns]
    exact List.prefix_append _ _
  · rw [he]

lemma Consistent.patterns_prefix_foldl (h : s.Consistent) (rs : List Registration) :
    s.patterns <+: (rs.foldl PatternSet.registered s).patterns := by
  induction rs generalizing s with
  | nil => exact List.prefix_rfl
  | cons r rest ih => exact (h.patterns_prefix_registered r).trans (ih (h.registered r))

/-- A set in which more patterns stand behind those of another assigns to their ids the same
positions. -/
lemma Bijective.position?_of_prefix (hs : s.Bijective) (ht : t.Bijective)
    (hfront : s.patterns <+: t.patterns) {id : String} {k : Nat} (hk : s.position? id = some k) :
    t.position? id = some k ∧ t.get? k = s.get? k := by
  obtain ⟨p, hp, hid⟩ := (hs.position?_eq_some_iff id k).1 hk
  obtain ⟨hlt, -⟩ := List.getElem?_eq_some_iff.1 hp
  obtain ⟨more, hmore⟩ := hfront
  have hsame : t.get? k = some p := by
    rw [get?, ← hmore, List.getElem?_append_left hlt]
    exact hp
  exact ⟨(ht.position?_eq_some_iff id k).2 ⟨p, hsame, hid⟩, hsame.trans hp.symm⟩

/-! ## Which ids are registered -/

/-- The ids of the patterns that some registrations offer. Malformed texts have none. -/
def offeredIds (rs : List Registration) : List String :=
  rs.filterMap fun r => r.pattern?.map Pattern.id

lemma Consistent.mem_ids_registered_iff (h : s.Consistent) (r : Registration) (id : String) :
    id ∈ (s.registered r).ids ↔ id ∈ s.ids ∨ r.pattern?.map Pattern.id = some id := by
  rw [PatternSet.registered]
  rcases h.register_cases r with ⟨p, t, hp, -, ht, hpatterns, -⟩ | ⟨e, he, hid⟩
  · rw [ht, hp, Option.map_some, Option.some_inj]
    rw [ids, hpatterns, List.map_append, List.map_singleton, ← ids, List.mem_append,
      List.mem_singleton, eq_comm]
  · rw [he]
    refine ⟨.inl, ?_⟩
    rintro (hmem | hr)
    · exact hmem
    · obtain ⟨p, hp, rfl⟩ := Option.map_eq_some_iff.1 hr
      exact hid p hp

lemma Consistent.mem_ids_foldl_registered_iff (h : s.Consistent) (rs : List Registration)
    (id : String) :
    id ∈ (rs.foldl PatternSet.registered s).ids ↔ id ∈ s.ids ∨ id ∈ offeredIds rs := by
  induction rs generalizing s with
  | nil => simp [offeredIds]
  | cons r rest ih =>
    rw [List.foldl_cons, ih (h.registered r), h.mem_ids_registered_iff, or_assoc]
    simp only [offeredIds, List.mem_filterMap, List.exists_mem_cons_iff]

lemma mem_ids_ofCalls_iff (calls : List RegistryCall) (id : String) :
    id ∈ (ofCalls calls).ids ↔ id ∈ offeredIds (empty.attemptsOfCalls calls) := by
  rw [ofCalls_eq_ofRegistrations, ofRegistrations, empty_consistent.mem_ids_foldl_registered_iff]
  simp [ids, empty]

/-- **The registry is a bijection.** After any calls, whatever came of them, no two patterns have
the same id, an id has the position at which its pattern stands and only that one, and an id is known
exactly if a pattern with it is in the list. The ids are those of the patterns that were offered, and
there are as many patterns as there are distinct ones among these. After any further calls each id
still has its position, with the same pattern, and so of the same kind. -/
theorem ofCalls_bijective (calls more : List RegistryCall) :
    let s := ofCalls calls
    let t := ofCalls (calls ++ more)
    let offered := offeredIds (empty.attemptsOfCalls calls)
    s.Bijective ∧
      (∀ id, id ∈ s.ids ↔ id ∈ offered) ∧ s.size = offered.toFinset.card ∧
      ∀ id k, s.position? id = some k → t.position? id = some k ∧ t.get? k = s.get? k := by
  intro s t offered
  have hs : s.Consistent := ofCalls_consistent calls
  have ht : t.Consistent := ofCalls_consistent (calls ++ more)
  have hmem : ∀ id, id ∈ s.ids ↔ id ∈ offered := mem_ids_ofCalls_iff calls
  refine ⟨hs.bijective, hmem, ?_, fun id k hk => ?_⟩
  · have hids : s.ids.toFinset = offered.toFinset := by
      ext id
      rw [List.mem_toFinset, List.mem_toFinset]
      exact hmem id
    rw [← hids, List.toFinset_card_of_nodup hs.nodup, ids, List.length_map, size]
  · have hfront : s.patterns <+: t.patterns := by
      rw [show t = _ from ofCalls_append calls more]
      exact hs.patterns_prefix_foldl _
    exact hs.bijective.position?_of_prefix ht.bijective hfront hk

end PatternSet

end BuildTriage
