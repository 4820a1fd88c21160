import BuildTriage.Proofs.Text.Trimming
import BuildTriage.Triage.Status
import Mathlib.Data.List.Forall2

/-!
# How a status may be spelled

A text is read as a status if it has a character for each of the name between white space, the same
up to case, or a hyphen where the name has an underscore. That is all there is to it for ASCII
texts, and any other text is given back as it was (`parse_eq_ok_iff_spelled`). The reader gets there
in three steps, which trim the text, put it in capitals and replace its hyphens, and then looks for
a status with exactly the name that comes out. Names are distinct, so it does not matter in which
order the statuses are looked through (`parseAmong_eq_parse`), not even that one name is the
beginning of another.
-/

namespace BuildTriage.BuildStatus

/-! ## Spelling a name character by character -/

/-- The text has ASCII characters only. -/
def IsAscii (text : String) : Prop :=
  ∀ c ∈ text.toList, c.toNat < 128

instance (text : String) : Decidable (IsAscii text) :=
  List.decidableBAll _ _

/-- A text may have `c` where the name has `d`. -/
def Agrees (c d : Char) : Prop :=
  c.toLower = d.toLower ∨ c = '-' ∧ d = '_'

instance (c d : Char) : Decidable (Agrees c d) :=
  inferInstanceAs (Decidable (_ ∨ _))

/-- The characters that names are made of. -/
def nameCharacters : List Char :=
  "ABCDEFGHIJKLMNOPQRSTUVWXYZ_".toList

lemma name_subset_nameCharacters (status : BuildStatus) :
    status.name.toList ⊆ nameCharacters := by
  cases status <;> decide

/-- The character of a name that an ASCII character spells. -/
def spelledCharacter (c : Char) : Char :=
  if c.toUpper = '-' then '_' else c.toUpper

lemma forall_ascii {P : Char → Prop} (h : ∀ n < 128, P (Char.ofNat n)) :
    ∀ c : Char, c.toNat < 128 → P c :=
  fun c hc => Char.ofNat_toNat c ▸ h c.toNat hc

lemma spelledCharacter_eq_iff : ∀ c : Char, c.toNat < 128 →
    ∀ d ∈ nameCharacters, spelledCharacter c = d ↔ Agrees c d := by
  have hall : ∀ n < 128, nameCharacters.all
      (fun d => spelledCharacter (Char.ofNat n) = d ↔ Agrees (Char.ofNat n) d) = true := by
    decide +kernel
  refine forall_ascii fun n hn d hd => ?_
  exact of_decide_eq_true (List.all_eq_true.1 (hall n hn) d hd)

lemma upperAscii_of_lt : ∀ c : Char, c.toNat < 128 → Text.upperAscii c = [c.toUpper] :=
  forall_ascii (by decide +kernel)

lemma spelledName_eq_map {text : List Char} (hascii : ∀ c ∈ Text.trim text, c.toNat < 128) :
    spelledName text = (Text.trim text).map spelledCharacter := by
  have hupper : (Text.trim text).flatMap Text.upperAscii = (Text.trim text).map Char.toUpper := by
    rw [List.map_eq_flatMap]
    exact List.flatMap_congr fun c hc => upperAscii_of_lt c (hascii c hc)
  rw [spelledName, hupper, List.map_map]
  rfl

lemma map_spelledCharacter_eq_iff {core name : List Char} (hcore : ∀ c ∈ core, c.toNat < 128)
    (hname : name ⊆ nameCharacters) :
    core.map spelledCharacter = name ↔ core.Forall₂ Agrees name := by
  induction core generalizing name with
  | nil => cases name <;> simp
  | cons c core ih =>
    cases name with
    | nil => simp
    | cons d name =>
      rw [List.forall_mem_cons] at hcore
      rw [List.cons_subset] at hname
      rw [List.map_cons, List.cons.injEq, List.forall₂_cons,
        spelledCharacter_eq_iff c hcore.1 d hname.1, ih hcore.2 hname.2]

lemma spelledName_eq_name_iff {text : String} (hascii : IsAscii text) {core : List Char}
    (hcore : Text.TrimsTo text.toList core) (status : BuildStatus) :
    spelledName text.toList = status.name.toList ↔ core.Forall₂ Agrees status.name.toList := by
  have hlt : ∀ c ∈ core, c.toNat < 128 := fun c hc => hascii c (hcore.subset hc)
  have htrim := hcore.trim_eq
  rw [spelledName_eq_map (htrim.symm ▸ hlt), htrim,
    map_spelledCharacter_eq_iff hlt (name_subset_nameCharacters status)]

/-! ## Looking a name up -/

lemma name_injective : Function.Injective name := by
  intro s t
  cases s <;> cases t <;> decide

/-- The first candidate that a text names. -/
def parseAmong (candidates : List BuildStatus) (text : String) :
    Except UnknownStatus BuildStatus :=
  match candidates.find? fun status => status.name = String.ofList (spelledName text.toList) with
  | some status => .ok status
  | none => .error ⟨text⟩

lemma parse_eq_parseAmong (text : String) : parse text = parseAmong all text := by
  unfold parse ofName? parseAmong
  -- The two matches on what is found agree case by case only.
  generalize List.find? _ all = found
  cases found <;> rfl

lemma mem_all (status : BuildStatus) : status ∈ all := by
  cases status <;> decide

variable {candidates : List BuildStatus} {text : String} {status : BuildStatus}

lemma name_eq_ofList_iff :
    status.name = String.ofList (spelledName text.toList) ↔
      spelledName text.toList = status.name.toList := by
  rw [← String.toList_inj, String.toList_ofList, eq_comm]

lemma spelled_of_parseAmong (h : parseAmong candidates text = .ok status) :
    spelledName text.toList = status.name.toList := by
  rw [parseAmong] at h
  split at h
  case h_1 found hfind =>
    cases h
    have hfound := List.find?_some hfind
    exact name_eq_ofList_iff.1 (of_decide_eq_true hfound)
  case h_2 => cases h

lemma parseAmong_of_spelled (hmem : status ∈ candidates)
    (hname : spelledName text.toList = status.name.toList) :
    parseAmong candidates text = .ok status := by
  have hfind : (candidates.find? fun status =>
      status.name = String.ofList (spelledName text.toList)).isSome := by
    rw [List.find?_isSome]
    exact ⟨status, hmem, decide_eq_true (name_eq_ofList_iff.2 hname)⟩
  obtain ⟨found, hfound⟩ := Option.isSome_iff_exists.1 hfind
  have hparse : parseAmong candidates text = .ok found := by rw [parseAmong, hfound]
  have hnames : found.name.toList = status.name.toList := by
    rw [← spelled_of_parseAmong hparse, hname]
  rw [hparse, name_injective (String.toList_inj.1 hnames)]

lemma parseAmong_of_not_spelled
    (hname : ∀ status : BuildStatus, spelledName text.toList ≠ status.name.toList) :
    parseAmong candidates text = .error ⟨text⟩ := by
  cases hparse : parseAmong candidates text with
  | ok status => exact absurd (spelled_of_parseAmong hparse) (hname status)
  | error e =>
    rw [parseAmong] at hparse
    split at hparse <;> cases hparse
    rfl

lemma parse_eq_ok_iff :
    parse text = .ok status ↔ spelledName text.toList = status.name.toList := by
  rw [parse_eq_parseAmong]
  exact ⟨spelled_of_parseAmong, parseAmong_of_spelled (mem_all status)⟩

lemma parseAmong_eq_parse (hmem : ∀ status, status ∈ candidates) :
    parseAmong candidates text = parse text := by
  by_cases hspelled : ∃ status : BuildStatus, spelledName text.toList = status.name.toList
  · obtain ⟨status, hstatus⟩ := hspelled
    rw [parseAmong_of_spelled (hmem status) hstatus, parse_eq_ok_iff.2 hstatus]
  · have hnone := not_exists.1 hspelled
    rw [parse_eq_parseAmong, parseAmong_of_not_spelled hnone, parseAmong_of_not_spelled hnone]

/-- An ASCII text is read as exactly the status that it spells, white space around it aside, and
comes back in the error as it was if it spells none. Any text is read alike whatever the order in
which the statuses are looked through. -/
theorem parse_eq_ok_iff_spelled :
    (∀ text : String, ∃! core, Text.TrimsTo text.toList core) ∧
      (∀ (text : String) (core : List Char), IsAscii text → Text.TrimsTo text.toList core →
        (∀ status, parse text = .ok status ↔ core.Forall₂ Agrees status.name.toList) ∧
          ((∀ status : BuildStatus, ¬ core.Forall₂ Agrees status.name.toList) →
            parse text = .error ⟨text⟩)) ∧
      ∀ (text : String) (candidates : List BuildStatus), candidates.Perm all →
        parseAmong candidates text = parse text := by
  refine ⟨fun text => Text.existsUnique_trimsTo text.toList,
    fun text core hascii hcore => ⟨fun status => ?_, fun hnone => ?_⟩, ?_⟩
  · rw [parse_eq_ok_iff, spelledName_eq_name_iff hascii hcore]
  · rw [parse_eq_parseAmong]
    apply parseAmong_of_not_spelled
    intro status hstatus
    exact hnone status ((spelledName_eq_name_iff hascii hcore status).1 hstatus)
  · intro text candidates hperm
    exact parseAmong_eq_parse fun status => hperm.mem_iff.2 (mem_all status)

/-- Mixed case, a hyphen and an underscore in the status whose name another name begins; a text one
character off a name; and the statuses from last to first. -/
theorem parse_eq_ok_iff_spelled_of_mixed :
    let text := "\t Rejected-failed_Dependencies\r\n"
    let text' := " failed? "
    IsAscii text ∧ Text.TrimsTo text.toList "Rejected-failed_Dependencies".toList ∧
      parse text = .ok .rejectedFailedDependencies ∧
      IsAscii text' ∧ Text.TrimsTo text'.toList "failed?".toList ∧
      parse text' = .error ⟨text'⟩ ∧
      all.reverse.Perm all ∧ parseAmong all.reverse text = .ok .rejectedFailedDependencies := by
  intro text text'
  have hcore : Text.TrimsTo text.toList "Rejected-failed_Dependencies".toList :=
    ⟨⟨"\t ".toList, "\r\n".toList, by decide, by decide, by decide⟩, by decide, by decide⟩
  have hcore' : Text.TrimsTo text'.toList "failed?".toList :=
    ⟨⟨" ".toList, " ".toList, by decide, by decide, by decide⟩, by decide, by decide⟩
  have hascii : IsAscii text := by decide
  have hascii' : IsAscii text' := by decide
  have hperm : all.reverse.Perm all := List.reverse_perm all
  obtain ⟨-, hread, horder⟩ := parse_eq_ok_iff_spelled
  have hparse : parse text = .ok .rejectedFailedDependencies :=
    ((hread text _ hascii hcore).1 _).2 (by decide)
  have hparse' : parse text' = .error ⟨text'⟩ := by
    apply (hread text' _ hascii' hcore').2
    intro status
    cases status <;> decide
  exact ⟨hascii, hcore, hparse, hascii', hcore', hparse', hperm,
    (horder text _ hperm).trans hparse⟩

end BuildTriage.BuildStatus
