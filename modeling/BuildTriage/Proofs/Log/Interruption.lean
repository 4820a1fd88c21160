import BuildTriage.Proofs.Log.History

/-!
# A source that fails

A source may fail in the middle of a log. What a scan has reported by then stays true: the same scan
of the whole log reports it too. `interrupted_keptBy` is the statement, for both ways to read a
source, for any chunks, and wherever the failure comes: inside a character, between a carriage
return and its line feed, or behind the part of a long line that was already given.

There are two reasons for it. The lines that an interrupted source gives are the first lines of the
whole one, since the failure takes back the line that it leaves open (`lines_isPrefix`), or since a
framer gives a line only once nothing that follows can change it (`framedLines_isPrefix`). And a
scan that reads on keeps what it has found (`Tracks.keptBy_readLines`).
-/

namespace BuildTriage

/-! ## The lines before a failure -/

/-- Reading on leaves the complete lines found before, held last first, as they are. -/
lemma suffix_foldl_cutStep (bytes : List UInt8) (cut : List (List UInt8) × List UInt8) :
    cut.1 <:+ (bytes.foldl cutStep cut).1 := by
  induction bytes generalizing cut with
  | nil => exact List.suffix_refl _
  | cons b rest ih =>
    refine List.IsSuffix.trans ?_ (ih (cutStep cut b))
    rw [cutStep]
    split
    · exact List.suffix_cons _ _
    · exact List.suffix_refl _

/-- The complete lines of the first bytes are the first complete lines of all bytes. -/
lemma cutLines_isPrefix (bytes more : List UInt8) :
    (cutLines bytes).1 <+: (cutLines (bytes ++ more)).1 := by
  have hsuffix := suffix_foldl_cutStep more (bytes.foldl cutStep ([], []))
  rw [← List.foldl_append] at hsuffix
  exact List.reverse_prefix.2 hsuffix

lemma cutLines_isPrefix_rawLines (bytes : List UInt8) : (cutLines bytes).1 <+: rawLines bytes := by
  simp only [rawLines]
  split
  · exact List.prefix_refl _
  · exact List.prefix_append _ _

namespace ByteSource

variable {chunks served : List (List UInt8)} {rest : List UInt8}

/-- The lines read before a failure are the first lines of the whole source. -/
lemma lines_isPrefix (h : chunks.flatten = served.flatten ++ rest) :
    lines ⟨served, true⟩ <+: lines ⟨chunks, false⟩ := by
  have hcut : (cutLines served.flatten).1 <+: rawLines chunks.flatten := by
    rw [h]
    exact (cutLines_isPrefix _ rest).trans (cutLines_isPrefix_rawLines _)
  exact hcut.map decodeLine

/-- The lines framed before a failure are the first lines framed of the whole source. -/
lemma framedLines_isPrefix (h : chunks.flatten = served.flatten ++ rest) (n : Nat) :
    framedLines ⟨served, true⟩ (.ofMaxLength n)
      <+: framedLines ⟨chunks, false⟩ (.ofMaxLength n) := by
  obtain ⟨found, framer, hreads, -, hfound⟩ :=
    framedLines_reads ⟨served, true⟩ (Framer.ofMaxLength_sound n)
  have hwhole : framedLines ⟨chunks, false⟩ (.ofMaxLength n) = found ++ framer.outlook rest := by
    calc framedLines ⟨chunks, false⟩ (.ofMaxLength n)
      _ = linesUpTo (max n 1) (served.flatten ++ rest) := by
        rw [framedLines_eq_of_not_failed rfl, bytes, h]
      _ = (Framer.ofMaxLength n).outlook (served.flatten ++ rest) :=
        (Framer.ofMaxLength_outlook n _).symm
      _ = found ++ framer.outlook rest := hreads.outlook_append rest
  rw [hfound, if_pos rfl, hwhole]
  exact List.prefix_append _ _

end ByteSource

/-! ## What a scan keeps when it reads on -/

/-- All that a scan reports is reported by another one too, which may report more. -/
structure Scan.KeptBy (s t : Scan) : Prop where
  /-- A pattern that was found is found, with the same text. -/
  matched : ∀ pair ∈ s.matched, pair ∈ t.matched
  captured : ∀ id text, s.captured? id = some text → t.captured? id = some text
  lines_le : s.lines ≤ t.lines
  isBlank : s.isBlank = false → t.isBlank = false

lemma Watched.report_after_of_eq_some {w : Watched} {text : String} (h : w.report = some text)
    (texts : List String) : (w.after texts).report = some text := by
  rw [report] at h
  rw [report, after, List.findSome?_append, h, Option.some_or]

namespace Tracks

variable {ws : List Watched} {read : List String} {s : Scan}

lemma mem_matched_iff (h : Tracks ws read s) (id text : String) :
    (id, text) ∈ s.matched ↔ s.captured? id = some text := by
  rw [h.matched_eq, List.mem_filterMap]
  constructor
  · rintro ⟨id', -, hpair⟩
    obtain ⟨text', htext, heq⟩ := Option.map_eq_some_iff.1 hpair
    obtain ⟨rfl, rfl⟩ := Prod.mk.inj heq
    exact htext
  · intro hcaptured
    have hid : id ∈ watchedIds ws := by
      by_contra hid
      rw [h.captured?_eq_none hid] at hcaptured
      cases hcaptured
    exact ⟨id, hid, by rw [hcaptured, Option.map_some]⟩

/-- A scan that reads on keeps what it reported. -/
lemma keptBy_readLines (h : Tracks ws read s) (more : List String) :
    s.KeptBy (s.readLines more) := by
  have hmore := h.readLines more
  have hcaptured : ∀ id text, s.captured? id = some text →
      (s.readLines more).captured? id = some text := by
    intro id text htext
    by_cases hid : id ∈ watchedIds ws
    · obtain ⟨w, hw, rfl⟩ := List.mem_map.1 hid
      rw [h.captured?_eq hw] at htext
      have hafter := hmore.captured?_eq (List.mem_map_of_mem (f := (Watched.after · more)) hw)
      rw [w.report_after_of_eq_some htext more] at hafter
      exact hafter
    · rw [h.captured?_eq_none hid] at htext
      cases htext
  refine ⟨?_, hcaptured, ?_, ?_⟩
  · rintro ⟨id, text⟩ hpair
    rw [hmore.mem_matched_iff]
    exact hcaptured id text ((h.mem_matched_iff id text).1 hpair)
  · rw [h.lines_eq, hmore.lines_eq, List.length_append]
    exact Nat.le_add_right _ _
  · intro hblank
    rw [h.isBlank_eq] at hblank
    rw [hmore.isBlank_eq, List.all_append, hblank, Bool.false_and]

/-- Of two scans that read on, the one that reads fewer lines reports no more. -/
lemma readLines_keptBy (h : Tracks ws read s) {lines more : List String} (hlines : lines <+: more) :
    (s.readLines lines).KeptBy (s.readLines more) := by
  obtain ⟨rest, rfl⟩ := hlines
  have hrest := (h.readLines lines).keptBy_readLines rest
  rwa [Scan.readLines, Scan.readLines, ← List.foldl_append] at hrest

end Tracks

/-! ## Interrupted scans -/

variable {ε : Type}

/-- **A failed read falsifies nothing.** Let a scan have come to some state, let a source serve some
bytes in some chunks, and let another one serve the first `k` of these bytes, in chunks of its own,
and fail. Then what the scan reads of the failing source are the first lines of what it reads of the
other, and it reports nothing that it would not report of the other: every pattern found is found
with the same text, no more lines are counted, and a log that was not empty is not. That is so if
the sources are read whole and if a framer takes lines off them, at whatever limit. -/
theorem interrupted_keptBy (shared : List Registration) (limit : Nat) (steps : List (ScanStep ε))
    (chunks served : List (List UInt8)) (k n : Nat)
    (hserved : served.flatten = chunks.flatten.take k) :
    let s := (Scan.start (.ofRegistrations shared) limit).run steps
    let whole : ByteSource := ⟨chunks, false⟩
    let part : ByteSource := ⟨served, true⟩
    let framer := Framer.ofMaxLength n
    (part.lines <+: whole.lines ∧ (s.readSource part).KeptBy (s.readSource whole)) ∧
      part.framedLines framer <+: whole.framedLines framer ∧
      (s.readFramed part framer).KeptBy (s.readFramed whole framer) := by
  intro s whole part framer
  have htracks := run_tracks shared limit steps
  have hbytes : chunks.flatten = served.flatten ++ chunks.flatten.drop k := by
    rw [hserved, List.take_append_drop]
  have hlines : part.lines <+: whole.lines := ByteSource.lines_isPrefix hbytes
  have hframed : part.framedLines framer <+: whole.framedLines framer :=
    ByteSource.framedLines_isPrefix hbytes n
  exact ⟨⟨hlines, htracks.readLines_keptBy hlines⟩, hframed, htracks.readLines_keptBy hframed⟩

/-- A failure inside a long line, in a source whose chunks end inside a character and between a
carriage return and its line feed. The framer has given the first bytes of the line by then. -/
theorem interrupted_keptBy_inside_long_line :
    let chunks : List (List UInt8) :=
      [[0xC3, 0xA9, carriageReturn, newline, 0x61, 0x62, 0x63, 0x64, 0x65], [newline, 0x66]]
    let served : List (List UInt8) :=
      [[0xC3], [0xA9, carriageReturn], [newline, 0x61, 0x62, 0x63, 0x64]]
    let s := (Scan.start (.ofRegistrations [.literal "ab"]) 10).run ([] : List (ScanStep Empty))
    let whole : ByteSource := ⟨chunks, false⟩
    let part : ByteSource := ⟨served, true⟩
    let framer := Framer.ofMaxLength 3
    served.flatten = chunks.flatten.take 8 ∧
      (part.lines <+: whole.lines ∧ (s.readSource part).KeptBy (s.readSource whole)) ∧
      (part.framedLines framer <+: whole.framedLines framer ∧
        (s.readFramed part framer).KeptBy (s.readFramed whole framer)) ∧
      part.lines = ["é"] ∧ part.framedLines framer = ["é", "abc"] := by
  intro chunks served s whole part framer
  have hserved : served.flatten = chunks.flatten.take 8 := by decide
  obtain ⟨hwhole, hframed⟩ := interrupted_keptBy [.literal "ab"] 10 [] chunks served 8 3 hserved
  refine ⟨hserved, hwhole, hframed, by decide, by decide +kernel⟩

end BuildTriage
