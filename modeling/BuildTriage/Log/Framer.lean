import BuildTriage.Log.Line

/-!
# Framing a stream of bytes into lines

Bytes arrive in chunks of any size. A framer holds those that do not make up a line yet. A line
longer than `maxLength` bytes is cut there, and the rest of it is skipped up to its line feed. A
framer remembers how much of its buffer it has searched for a line feed, so each byte is searched
once.
-/

namespace BuildTriage

/-- The bytes of a stream that wait to be read as lines. -/
structure Framer where
  /-- The longest line, in bytes; what exceeds it is skipped. -/
  maxLength : Nat := 1024 * 1024
  buffer : List UInt8 := []
  /-- How many bytes at the start of the buffer are known not to be line feeds. -/
  searched : Nat := 0
  /-- Whether the buffer starts inside a line that was cut. -/
  skipping : Bool := false
  maxLength_pos : 0 < maxLength := by decide

namespace Framer

/-- A framer that cuts lines at `n` bytes, and at one byte if `n` is zero. -/
def ofMaxLength (n : Nat) : Framer :=
  { maxLength := max n 1, maxLength_pos := by omega }

/-- Appends a chunk to the buffer. -/
def feed (f : Framer) (chunk : List UInt8) : Framer :=
  { f with buffer := f.buffer ++ chunk }

/-- Where the first line feed of the buffer stands. -/
def newline? (f : Framer) : Option Nat :=
  ((f.buffer.drop f.searched).idxOf? newline).map (· + f.searched)

/-- Takes a line off a buffer that starts a line: up to its line feed, or up to the limit where the
buffer holds more than that and no line feed. -/
def takeLine (f : Framer) : Option String × Framer :=
  match f.newline? with
  | some stop =>
    (some (decodeLine (f.buffer.take (min stop f.maxLength))),
      { f with buffer := f.buffer.drop (stop + 1), searched := 0 })
  | none =>
    if f.maxLength < f.buffer.length then
      (some (decodeLine (f.buffer.take f.maxLength)),
        { f with buffer := f.buffer.drop f.maxLength, searched := 0, skipping := true })
    else (none, { f with searched := f.buffer.length })

/-- Takes the next line, if the buffer holds one. The rest of a cut line is skipped first. -/
def next (f : Framer) : Option String × Framer :=
  if f.skipping then
    match f.newline? with
    | some stop =>
      takeLine { f with buffer := f.buffer.drop (stop + 1), searched := 0, skipping := false }
    | none => (none, { f with buffer := [], searched := 0 })
  else f.takeLine

/-- Takes the next line when no more bytes will come: what is left in the buffer is a line too,
unless it belongs to a line that was cut. -/
def nextAtEnd (f : Framer) : Option String × Framer :=
  match f.next with
  | (some line, f) => (some line, f)
  | (none, f) =>
    if f.buffer.isEmpty || f.skipping then
      (none, { f with buffer := [], searched := 0, skipping := false })
    else (some (decodeLine f.buffer), { f with buffer := [], searched := 0 })

theorem newline?_lt {f : Framer} {stop : Nat} (h : f.newline? = some stop) :
    stop < f.buffer.length := by
  simp only [newline?, Option.map_eq_some_iff] at h
  obtain ⟨k, hk, rfl⟩ := h
  have := (List.findIdx?_eq_some_iff_getElem.1 hk).1
  simp at this
  omega

theorem takeLine_buffer_lt {f g : Framer} {line : String} (h : f.takeLine = (some line, g)) :
    g.buffer.length < f.buffer.length := by
  unfold takeLine at h
  split at h
  · next stop hs =>
    have := newline?_lt hs
    obtain ⟨-, rfl⟩ := Prod.mk.inj h
    simp
    omega
  · split at h
    · have := f.maxLength_pos
      obtain ⟨-, rfl⟩ := Prod.mk.inj h
      simp
      omega
    · simp at h

/-- Taking a line takes bytes off the buffer. -/
theorem next_buffer_lt {f g : Framer} {line : String} (h : f.next = (some line, g)) :
    g.buffer.length < f.buffer.length := by
  unfold next at h
  split at h
  · split at h
    · have := takeLine_buffer_lt h
      simp at this
      omega
    · simp at h
  · exact takeLine_buffer_lt h

theorem next_buffer_le {f g : Framer} (h : f.next = (none, g)) :
    g.buffer.length ≤ f.buffer.length := by
  unfold next takeLine at h
  split at h
  · split at h
    · split at h
      · simp at h
      · split at h
        · simp at h
        · obtain ⟨-, rfl⟩ := Prod.mk.inj h
          simp
    · obtain ⟨-, rfl⟩ := Prod.mk.inj h
      simp
  · split at h
    · simp at h
    · split at h
      · simp at h
      · obtain ⟨-, rfl⟩ := Prod.mk.inj h
        simp

theorem nextAtEnd_buffer_lt {f g : Framer} {line : String} (h : f.nextAtEnd = (some line, g)) :
    g.buffer.length < f.buffer.length := by
  unfold nextAtEnd at h
  split at h
  · next hn =>
    obtain ⟨-, rfl⟩ := Prod.mk.inj h
    exact next_buffer_lt hn
  · next f' hn =>
    split at h
    · simp at h
    · next hb =>
      have := next_buffer_le hn
      obtain ⟨-, rfl⟩ := Prod.mk.inj h
      have : f'.buffer ≠ [] := by
        intro he
        simp [he] at hb
      have := List.length_pos_iff.2 this
      simp
      omega

/-- Takes lines as long as there are any, after those found before, which are held last first. -/
def drainInto (found : List String) (f : Framer) : List String × Framer :=
  match h : f.next with
  | (some line, g) =>
    have := next_buffer_lt h
    drainInto (line :: found) g
  | (none, g) => (found.reverse, g)
termination_by f.buffer.length

/-- Takes all lines that the buffer holds. -/
def drain (f : Framer) : List String × Framer :=
  f.drainInto []

/-- Takes lines at the end of the stream, after those found before, which are held last first. -/
def drainAtEndInto (found : List String) (f : Framer) : List String × Framer :=
  match h : f.nextAtEnd with
  | (some line, g) =>
    have := nextAtEnd_buffer_lt h
    drainAtEndInto (line :: found) g
  | (none, g) => (found.reverse, g)
termination_by f.buffer.length

/-- Takes all lines when no more bytes will come. -/
def drainAtEnd (f : Framer) : List String × Framer :=
  f.drainAtEndInto []

end Framer

end BuildTriage
