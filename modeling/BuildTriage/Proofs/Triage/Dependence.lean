import BuildTriage.Proofs.Triage.Catalogue
import BuildTriage.Proofs.Triage.Evidence
import Mathlib.Data.List.Find
import Mathlib.Data.List.Forall2

/-!
# What a predicate depends on

A predicate names signatures, and of all that two scans have found it asks for these alone. So scans
that agree on the signatures it names, and on whether the alignment log is blank, are the same to
it, however it is nested (`Predicate.holds_congr_of_agreeOn`). A check that goes through the
signatures that the rules name thus misses none that a rule can ask for. All of them are in the
catalogue, so the choice of a rule depends on nothing else (`firstRule?_congr_of_agreeOn`).

Nor is there anything else in the list. A predicate is a tree, and a position in it says which part
to go to at each level (`Predicate.at?`). The positions at which a log is asked for a signature are
`Predicate.positions`, from left to right, which is their lexicographic order; and the signatures
asked for there, one after the other and as often as they are asked for, are those that the
predicate names. `signatures_complete` states both.
-/

namespace BuildTriage

/-- The scans say the same of some signatures. -/
def ScanResult.AgreeOn (r r' : ScanResult) (signatures : List String) : Prop :=
  ∀ signature ∈ signatures, r.contains signature = r'.contains signature

variable {build build' alignment alignment' : ScanResult}

lemma ScanResult.AgreeOn.mono {r r' : ScanResult} {signatures fewer : List String}
    (h : r.AgreeOn r' signatures) (hfewer : fewer ⊆ signatures) : r.AgreeOn r' fewer :=
  fun signature hsignature => h signature (hfewer hsignature)

/-- Scans that agree on what some predicates name agree on what each of them names. -/
lemma ScanResult.AgreeOn.of_mem {r r' : ScanResult} {parts : List Predicate} {p : Predicate}
    (h : r.AgreeOn r' (Predicate.signaturesOfAll parts)) (hp : p ∈ parts) :
    r.AgreeOn r' p.signatures := by
  refine h.mono fun signature hsignature => ?_
  rw [Predicate.signaturesOfAll_eq, List.mem_flatMap]
  exact ⟨p, hp, hsignature⟩

namespace Predicate

/-- Scans that agree on the signatures that a predicate names are the same to it. -/
theorem holds_congr_of_agreeOn (p : Predicate) (hbuild : build.AgreeOn build' p.signatures)
    (halignment : alignment.AgreeOn alignment' p.signatures)
    (hblank : alignment.isBlank = alignment'.isBlank) :
    p.holds build alignment = p.holds build' alignment' := by
  induction p with
  | build signature => exact hbuild signature List.mem_cons_self
  | alignment signature => exact halignment signature List.mem_cons_self
  | alignmentEmpty => exact hblank
  | all parts ih =>
    rw [Bool.eq_iff_iff, holds_all_iff, holds_all_iff]
    refine forall₂_congr fun q hq => ?_
    rw [ih q hq (hbuild.of_mem hq) (halignment.of_mem hq)]
  | any parts ih =>
    rw [Bool.eq_iff_iff, holds_any_iff, holds_any_iff]
    refine exists_congr fun q => and_congr_right fun hq => ?_
    rw [ih q hq (hbuild.of_mem hq) (halignment.of_mem hq)]

/-! ## Positions -/

/-- The parts of the predicate; a simple one has none. -/
def parts : Predicate → List Predicate
  | .build _ | .alignment _ | .alignmentEmpty => []
  | .all parts | .any parts => parts

/-- The predicate that stands at a position, which says which part to go to at each level. -/
def at? : Predicate → List Nat → Option Predicate
  | p, [] => some p
  | p, i :: position => p.parts[i]?.bind fun part => part.at? position

/-- At the position one of the logs is asked for the signature. -/
def AsksAt (p : Predicate) (position : List Nat) (signature : String) : Prop :=
  p.at? position = some (.build signature) ∨ p.at? position = some (.alignment signature)

mutual

/-- The positions at which a log is asked for a signature, from left to right. -/
def positions : Predicate → List (List Nat)
  | .build _ | .alignment _ => [[]]
  | .alignmentEmpty => []
  | .all parts | .any parts => positionsFrom 0 parts

/-- The positions at which a log is asked for a signature, if the predicates are parts of one and
the first of them is the part number `i`. -/
def positionsFrom (i : Nat) : List Predicate → List (List Nat)
  | [] => []
  | p :: rest => p.positions.map (i :: ·) ++ positionsFrom (i + 1) rest

end

lemma asksAt_cons_iff {p : Predicate} {i : Nat} {position : List Nat} {signature : String} :
    p.AsksAt (i :: position) signature ↔
      ∃ part, p.parts[i]? = some part ∧ part.AsksAt position signature := by
  simp only [AsksAt, at?, Option.bind_eq_some_iff, ← exists_or, ← and_or_left]

/-- A position below a list of parts goes to one of them. -/
lemma mem_positionsFrom_iff {i : Nat} {parts : List Predicate} {position : List Nat} :
    position ∈ positionsFrom i parts ↔
      ∃ j part below, parts[j]? = some part ∧ below ∈ part.positions ∧
        position = (i + j) :: below := by
  induction parts generalizing i with
  | nil => simp [positionsFrom]
  | cons p rest ih =>
    rw [positionsFrom, List.mem_append, List.mem_map, ih]
    constructor
    · rintro (⟨below, hbelow, rfl⟩ | ⟨j, part, below, hpart, hbelow, rfl⟩)
      · exact ⟨0, p, below, rfl, hbelow, rfl⟩
      · exact ⟨j + 1, part, below, hpart, hbelow, by rw [Nat.add_right_comm, Nat.add_assoc]⟩
    · rintro ⟨_ | j, part, below, hpart, hbelow, rfl⟩
      · obtain rfl := Option.some.inj hpart
        exact .inl ⟨below, hbelow, rfl⟩
      · exact .inr ⟨j, part, below, hpart, hbelow, by rw [Nat.add_right_comm, Nat.add_assoc]⟩

/-- The positions below a list of parts are all listed if those in each part are. -/
lemma mem_positionsFrom_parts_iff (p : Predicate) (hp : ∀ signature, ¬p.AsksAt [] signature)
    (hparts : ∀ part ∈ p.parts, ∀ below,
      below ∈ part.positions ↔ ∃ signature, part.AsksAt below signature)
    (position : List Nat) :
    position ∈ positionsFrom 0 p.parts ↔ ∃ signature, p.AsksAt position signature := by
  rw [mem_positionsFrom_iff]
  constructor
  · rintro ⟨i, part, below, hpart, hbelow, rfl⟩
    obtain ⟨signature, hasks⟩ := (hparts part (List.mem_of_getElem? hpart) below).1 hbelow
    rw [Nat.zero_add]
    exact ⟨signature, asksAt_cons_iff.2 ⟨part, hpart, hasks⟩⟩
  · rintro ⟨signature, hasks⟩
    cases position with
    | nil => exact absurd hasks (hp signature)
    | cons i below =>
      obtain ⟨part, hpart, hasks⟩ := asksAt_cons_iff.1 hasks
      have hbelow := (hparts part (List.mem_of_getElem? hpart) below).2 ⟨signature, hasks⟩
      exact ⟨i, part, below, hpart, hbelow, by rw [Nat.zero_add]⟩

/-- All positions at which a log is asked for a signature are listed, and no others. -/
lemma mem_positions_iff (p : Predicate) (position : List Nat) :
    position ∈ p.positions ↔ ∃ signature, p.AsksAt position signature := by
  induction p generalizing position with
  | build | alignment | alignmentEmpty =>
    cases position with
    | nil => simp [positions, AsksAt, at?]
    | cons i below => simp [positions, AsksAt, at?, parts]
  | all parts ih =>
    exact (all parts).mem_positionsFrom_parts_iff (by simp [AsksAt, at?]) ih position
  | any parts ih =>
    exact (any parts).mem_positionsFrom_parts_iff (by simp [AsksAt, at?]) ih position

/-- The positions below a list of parts are in order if those in each part are. -/
lemma positionsFrom_pairwise_lt (i : Nat) {parts : List Predicate}
    (hparts : ∀ p ∈ parts, p.positions.Pairwise (· < ·)) :
    (positionsFrom i parts).Pairwise (· < ·) := by
  induction parts generalizing i with
  | nil => exact .nil
  | cons p rest ih =>
    rw [List.forall_mem_cons] at hparts
    rw [positionsFrom, List.pairwise_append, List.pairwise_map]
    refine ⟨hparts.1.imp fun hlt => List.cons_lt_cons_iff.2 (.inr ⟨rfl, hlt⟩), ih _ hparts.2, ?_⟩
    intro position hposition later hlater
    obtain ⟨below, -, rfl⟩ := List.mem_map.1 hposition
    obtain ⟨j, part, below', -, -, rfl⟩ := mem_positionsFrom_iff.1 hlater
    -- A later part has a greater number, whatever stands below it.
    exact List.cons_lt_cons_iff.2 (.inl (by omega))

/-- The positions are listed from left to right. -/
lemma positions_pairwise_lt (p : Predicate) : p.positions.Pairwise (· < ·) := by
  induction p with
  | build | alignment => exact List.pairwise_singleton _ _
  | alignmentEmpty => exact .nil
  | all parts ih | any parts ih => exact positionsFrom_pairwise_lt 0 ih

/-- What is asked for below a list of parts is what the parts name, one after the other. -/
lemma positionsFrom_forall₂ {asks : List Nat → String → Prop} (i : Nat) {parts : List Predicate}
    (hparts : ∀ p ∈ parts, p.positions.Forall₂ p.AsksAt p.signatures)
    (hasks : ∀ j part, parts[j]? = some part → ∀ below signature,
      part.AsksAt below signature → asks ((i + j) :: below) signature) :
    (positionsFrom i parts).Forall₂ asks (signaturesOfAll parts) := by
  induction parts generalizing i with
  | nil => exact .nil
  | cons p rest ih =>
    rw [List.forall_mem_cons] at hparts
    rw [positionsFrom, signaturesOfAll]
    refine List.rel_append ?_ (ih (i + 1) hparts.2 fun j part hpart below signature h => ?_)
    · exact List.forall₂_map_left_iff.2 (hparts.1.imp (hasks 0 p rfl))
    · rw [Nat.add_right_comm]
      exact hasks (j + 1) part hpart below signature h

/-- The signatures that a predicate names are those it asks for, position by position. -/
lemma positions_forall₂ (p : Predicate) : p.positions.Forall₂ p.AsksAt p.signatures := by
  induction p with
  | build => exact .cons (.inl rfl) .nil
  | alignment => exact .cons (.inr rfl) .nil
  | alignmentEmpty => exact .nil
  | all parts ih | any parts ih =>
    refine positionsFrom_forall₂ 0 ih fun i part hpart below signature hasks => ?_
    rw [Nat.zero_add]
    exact asksAt_cons_iff.2 ⟨part, hpart, hasks⟩

example :
    let p := all [.build "a", .any [.alignment "b", .alignmentEmpty, .build "a"]]
    p.positions = [[0], [1, 0], [1, 2]] ∧ p.signatures = ["a", "b", "a"] :=
  ⟨rfl, rfl⟩

/-- **The signatures that a predicate names are complete.** A predicate, however nested, holds for a
build log and an alignment log exactly if it holds for any other two that agree with them on the
signatures it names, the alignment logs being both blank or both not. And it names the signatures it
asks a log for and no others: there are positions in it, each further to the right than those
before, that are all those at which a log is asked for a signature, and the signatures named are
those asked for there, one for each position. -/
theorem signatures_complete (p : Predicate) :
    (∀ build build' alignment alignment' : ScanResult,
        build.AgreeOn build' p.signatures → alignment.AgreeOn alignment' p.signatures →
        alignment.isBlank = alignment'.isBlank →
        p.holds build alignment = p.holds build' alignment') ∧
      ∃ positions : List (List Nat), positions.Pairwise (· < ·) ∧
        (∀ position, position ∈ positions ↔ ∃ signature, p.AsksAt position signature) ∧
        positions.Forall₂ p.AsksAt p.signatures :=
  ⟨fun _ _ _ _ => p.holds_congr_of_agreeOn,
    p.positions, p.positions_pairwise_lt, p.mem_positions_iff, p.positions_forall₂⟩

/-- A predicate that asks the build log for one signature in two places, and logs that differ in a
signature that it does not ask for. -/
theorem signatures_complete_of_nested :
    let p := Predicate.all [.build "error", .any [.alignment "cause",
      .all [.alignmentEmpty, .build "error"]]]
    let registrations := [Registration.literal "error", .literal "cause", .literal "note"]
    let result := ScanResult.ofLines (.ofRegistrations registrations) 0
    let build := result ["error: unknown", "note"]
    let build' := result ["an error"]
    let alignment := result ["cause: unknown"]
    let alignment' := result ["note", "cause: unknown"]
    p.signatures = ["error", "cause", "error"] ∧
      build.AgreeOn build' p.signatures ∧ alignment.AgreeOn alignment' p.signatures ∧
      alignment.isBlank = alignment'.isBlank ∧
      build.contains "note" = true ∧ build'.contains "note" = false ∧
      p.holds build alignment = p.holds build' alignment' := by
  intro p registrations result build build' alignment alignment'
  have htracks (lines : List String) := run_tracks (ε := Empty) registrations 0 [.lines lines]
  have hbuild : ∀ id, build.contains id = decide (id ∈ ["error", "note"]) :=
    (htracks ["error: unknown", "note"]).contains_eq_decide (by decide +kernel)
  have hbuild' : ∀ id, build'.contains id = decide (id ∈ ["error"]) :=
    (htracks ["an error"]).contains_eq_decide (by decide +kernel)
  have halignment : ∀ id, alignment.contains id = decide (id ∈ ["cause"]) :=
    (htracks ["cause: unknown"]).contains_eq_decide (by decide +kernel)
  have halignment' : ∀ id, alignment'.contains id = decide (id ∈ ["cause", "note"]) :=
    (htracks ["note", "cause: unknown"]).contains_eq_decide (by decide +kernel)
  have hblank : alignment.isBlank = alignment'.isBlank :=
    (htracks ["cause: unknown"]).isBlank_eq.trans
      (htracks ["note", "cause: unknown"]).isBlank_eq.symm
  have hagree : build.AgreeOn build' p.signatures := by
    simp only [ScanResult.AgreeOn, hbuild, hbuild']
    decide
  have hagree' : alignment.AgreeOn alignment' p.signatures := by
    simp only [ScanResult.AgreeOn, halignment, halignment']
    decide
  exact ⟨rfl, hagree, hagree', hblank, by rw [hbuild]; decide, by rw [hbuild']; decide,
    (signatures_complete p).1 build build' alignment alignment' hagree hagree' hblank⟩

end Predicate

/-! ## The rules -/

/-- Every signature that a rule names is in the catalogue. -/
lemma Rule.signatures_subset_catalogue :
    ∀ r ∈ table, r.predicate.signatures ⊆ Signature.catalogue.ids := by
  rw [Signature.catalogue_ids]
  decide +kernel

/-- The rule that is chosen depends on the signatures of the catalogue alone, and on whether the
alignment log is blank. -/
theorem firstRule?_congr_of_agreeOn (hbuild : build.AgreeOn build' Signature.catalogue.ids)
    (halignment : alignment.AgreeOn alignment' Signature.catalogue.ids)
    (hblank : alignment.isBlank = alignment'.isBlank) :
    firstRule? build alignment = firstRule? build' alignment' := by
  refine List.find?_congr fun r hr => ?_
  have hsubset := Rule.signatures_subset_catalogue r hr
  exact r.predicate.holds_congr_of_agreeOn (hbuild.mono hsubset) (halignment.mono hsubset) hblank

end BuildTriage
