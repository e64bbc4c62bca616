/-
Decoded logs are well formed, whatever the bytes are that they were decoded from.

The checks are scattered over the reader: a name must be a span of the names that fits the text, a
message one of the messages, an author the number of a name, and the names must increase.  Together
they give all that the rest of the library assumes of a log (`decode_wellFormed`), and in
particular what writing it again needs.
-/
import Scrollback.Proofs.Codec.Reading
import Scrollback.Proofs.Codec.Writing

namespace Scrollback.Codec

namespace Opening

variable {bytes : ByteArray} {lines : List LineSpan}

/-! ### Names -/

/-- The table has one name for each of its entries, and none where it is absent. -/
theorem names_count (r : Opening bytes) :
    if r.header.nameTable = 0 then r.names = []
    else (r.header.source bytes).word r.header.nameTable .nameTable = .ok r.names.length := by
  have read := r.names_read
  split
  · next h =>
    rw [h, readNames_zero] at read
    exact (Except.ok.inj read).symm
  · next h => exact ((readNames_eq_ok h).mp read).1

/-- Every name is a span of the text. -/
theorem name_fits (r : Opening bytes) {n : Span} (hn : n ∈ r.names) : n.Fits r.text := by
  have read := r.names_read
  by_cases h : r.header.nameTable = 0
  · rw [h, readNames_zero] at read
    simp [← Except.ok.inj read] at hn
  · obtain ⟨i, hi, rfl⟩ := List.getElem_of_mem hn
    exact (((readNames_eq_ok h).mp read).2.2 i hi).fits

theorem logWith_increase (r : Opening bytes) (lines : List LineSpan) :
    (r.logWith lines).NamesIncrease := by
  rw [Log.NamesIncrease, logWith, Log.nameTexts, List.map_map]
  exact increasing_iff.mp r.names_increase

/-- An entry of the name table is found by its text. -/
theorem nameIndex?_of_entry (r : Opening bytes) {i : Nat} {n : Span} (h : r.names[i]? = some n) :
    (r.logWith lines).nameIndex? ((r.logWith lines).textOf n) = some i := by
  rw [Log.nameIndex?_eq_some (r.logWith_increase lines)]
  simp [Log.nameTexts, logWith, h]

/-! ### Lines -/

/-- There are as many lines as the header says, each read from its own place. -/
theorem lines_from (r : Opening bytes) (read : r.readLines = .ok lines) :
    lines.length = r.header.lineCount ∧
      ∀ i (hi : i < lines.length), LineRead (r.header.source bytes) r.header r.text
        r.nameBlob.size r.messageBlob.size r.names.toArray i lines[i] := by
  by_cases h : r.header.lineCount = 0
  · rw [readLines, readLines_zero h] at read
    rw [← Except.ok.inj read]
    exact ⟨h.symm, fun i hi => absurd hi (Nat.not_lt_zero i)⟩
  · exact ((readLines_eq_ok h).mp read).2

/-- A line's author is an entry of the name table, and its message a span of the text. -/
theorem line_spans (r : Opening bytes) (read : r.readLines = .ok lines) {l : LineSpan}
    (hl : l ∈ lines) : (∃ i : Nat, r.names[i]? = some l.author) ∧ l.message.Fits r.text := by
  obtain ⟨i, hi, rfl⟩ := List.getElem_of_mem hl
  have line := (r.lines_from read).2 i hi
  obtain ⟨index, -, hname⟩ := line.author
  exact ⟨⟨index, by simpa using hname⟩, line.fits⟩

theorem logWith_wellFormed (r : Opening bytes) (read : r.readLines = .ok lines) :
    (r.logWith lines).WellFormed where
  names_fit := fun n hn => r.name_fits (List.mem_toArray.mp hn)
  authors_fit := by
    intro l hl
    obtain ⟨⟨i, hi⟩, -⟩ := r.line_spans read (List.mem_toArray.mp hl)
    exact r.name_fits (List.mem_of_getElem? hi)
  messages_fit := fun l hl => (r.line_spans read (List.mem_toArray.mp hl)).2
  names_increase := r.logWith_increase lines
  authors_named := by
    intro line hline
    obtain ⟨l, hl, rfl⟩ := List.mem_map.mp hline
    obtain ⟨⟨i, hi⟩, -⟩ := r.line_spans read hl
    exact (Log.exists_nameIndex? (r.logWith_increase lines)).mp ⟨i, r.nameIndex?_of_entry hi⟩

end Opening

/-- What is known of a log that has been decoded from some bytes. -/
structure Decoded (bytes : ByteArray) (log : Log) : Prop where
  valid : log.valid = true
  wellFormed : log.WellFormed
  /-- Each author is an entry of the name table, and its text is found just there. -/
  entries : ∀ l ∈ log.lines, ∃ i : Nat, log.names[i]? = some l.author ∧
    log.nameIndex? (log.textOf l.author) = some i
  /-- The log has the lines and the names that the bytes announce, each line at the time that is
  stored in its place. -/
  announced : ∃ header, readHeader bytes = .ok header ∧
    log.lines.size = header.lineCount ∧
    (if header.nameTable = 0 then log.names.size = 0
      else (header.source bytes).word header.nameTable .nameTable = .ok log.names.size) ∧
    ∀ i (hi : i < log.lines.size), ∃ millis,
      (header.source bytes).stamp (header.timestamps + i * 8) .timestamps = .ok millis ∧
      Instant.ofMillis? millis = .ok log.lines[i].time
  /-- Only a number that the mode cannot hold keeps the log from being written again. -/
  rewritable : ∀ m o, (∃ out, encode log m o = .ok out) ∨
    ∃ n, m.max < n ∧ encode log m o = .error (.overflow n m)

/-- Decoding is all or nothing: whatever the bytes are, a log that comes out of them is complete
and well formed. -/
theorem decode_wellFormed {bytes : ByteArray} {log : Log} (h : decode bytes = .ok log) :
    Decoded bytes log := by
  obtain ⟨r, lines, read, rfl⟩ := decode_eq_ok.mp h
  have formed := r.logWith_wellFormed read
  have from_places := r.lines_from read
  refine ⟨rfl, formed, ?_, ⟨r.header, r.header_read, from_places.1, ?_, ?_⟩, ?_⟩
  · intro l hl
    obtain ⟨⟨i, hi⟩, -⟩ := r.line_spans read (List.mem_toArray.mp hl)
    exact ⟨i, by simpa [Opening.logWith] using hi, r.nameIndex?_of_entry hi⟩
  · have count := r.names_count
    split at count
    · next h => simpa [h, Opening.logWith] using count
    · next h => simpa [h, Opening.logWith] using count
  · intro i hi
    exact (from_places.2 i hi).time
  · intro m o
    obtain ⟨authors, hauthors⟩ := exists_authorNumbers formed.names_increase formed.authors_named
    exact encode_cases m o rfl hauthors

/-- Two lines of which channel, user, author and message all lie in one stretch of bytes, and the
author numbers in the first time. -/
def overlapping : ByteArray :=
  ⟨#[0, 0, 0, 0, 0, 0, 0, 0,
    2, 0, 42, 0, 42, 0, 42, 0, 42, 0, 46, 0, 52, 0, 52, 0, 68, 0,
    0, 0, 0, 0, 0, 0, 0, 0, 232, 3, 0, 0, 0, 0, 0, 0,
    2, 0, 195, 169, 1, 0, 0, 0, 2, 0,
    0, 0, 0, 0, 0, 0, 0, 0, 255, 255, 255, 255, 255, 255, 255, 255,
    0, 0, 2, 0, 2, 0, 0, 0]⟩

theorem decode_overlapping :
    ∃ log, decode overlapping = .ok log ∧ Decoded overlapping log := by
  have read : decode overlapping =
      .ok ⟨⟨"é", ⟨0, 1000, by decide, by decide, by decide⟩, "é"⟩, "éé", true, #[⟨0, 2⟩],
        #[⟨⟨0, 0⟩, ⟨0, 2⟩, ⟨2, 2⟩⟩, ⟨⟨-1, 999⟩, ⟨0, 2⟩, ⟨4, 0⟩⟩]⟩ := by
    cbv
  exact ⟨_, read, decode_wellFormed read⟩

end Scrollback.Codec
