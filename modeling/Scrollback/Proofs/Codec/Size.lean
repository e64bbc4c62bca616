/-
How many bytes a log takes.  `encodedSize` adds up the parts that are written: the header, the
channel, and the user, the names and the lines where there are any.  What is written has just that
size, and a log is refused exactly where its size does not fit the mode (`encode_by_size`).  The
size that is reckoned for a log is greater by the sizes of the absent parts (`sizeBound_eq`), and
where that is small enough even for the widest mode, the mode that is chosen holds the log.
-/
import Scrollback.Proofs.Codec.RoundTrip
import Scrollback.Proofs.Log.Parsed

namespace Scrollback.Codec

variable {log : Log} {m : Mode}

/-! ### Sizes -/

/-- The bytes of the distinct names. -/
def namesTotal (log : Log) : Nat :=
  total (log.nameTexts.map String.utf8ByteSize)

/-- The bytes of all messages. -/
def messagesTotal (log : Log) : Nat :=
  total (log.remarks.map fun l => l.message.utf8ByteSize)

/-- How many bytes a log takes in a mode.  A text has its size in front; a name has a place in the
table beside its text, a line a time, the number of its author and a place in the other table. -/
def encodedSize (log : Log) (m : Mode) : Nat :=
  headerSize m + (m.width + log.id.channel.utf8ByteSize) +
    (if log.id.user = "" then 0 else m.width + log.id.user.utf8ByteSize) +
    (if log.names.size = 0 then 0
      else m.width + namesTotal log + (m.width + 2 * m.width * log.names.size)) +
    (if log.lines.size = 0 then 0
      else m.width + messagesTotal log + log.lines.size * (8 + 3 * m.width))

/-- How many bytes are reckoned for parts that are absent: one number for the user, two for the
names and their table, one for the messages. -/
def absentSize (log : Log) (m : Mode) : Nat :=
  (if log.id.user = "" then m.width else 0) + (if log.names.size = 0 then 2 * m.width else 0) +
    (if log.lines.size = 0 then m.width else 0)

theorem length_names_flatten (log : Log) :
    (log.nameTexts.map utf8).flatten.length = namesTotal log := by
  rw [length_flatten, List.map_map, namesTotal]
  congr 1

theorem length_messages_flatten (log : Log) :
    (log.remarks.map fun l => utf8 l.message).flatten.length = messagesTotal log := by
  rw [length_flatten, List.map_map, messagesTotal]
  congr 1

theorem sizes_userPart (m : Mode) (id : LogId) :
    Field.sizes m (userPart id) = if id.user = "" then 0 else m.width + id.user.utf8ByteSize := by
  rw [userPart]
  split
  · rfl
  · rw [sizes_sized, length_utf8]

/-- The names are written with a table of them, unless there are none. -/
theorem sizes_nameParts (m : Mode) (names : List (List UInt8)) :
    Field.sizes m (if names.isEmpty then [] else sized names.flatten) +
      Field.sizes m (if names.isEmpty then [] else .word names.length :: extents 0 names) =
      if names.length = 0 then 0
      else m.width + names.flatten.length + (m.width + 2 * m.width * names.length) := by
  rcases names with - | ⟨name, names⟩
  · rfl
  · have some : ¬(name :: names).length = 0 := Nat.succ_ne_zero _
    rw [if_neg some]
    simp only [List.isEmpty_cons, Bool.false_eq_true, if_false, sizes_sized, Field.sizes_cons,
      sizes_extents, Field.size]
    rw [Nat.mul_comm (List.length _)]

/-- The messages are written with the three lists that have an entry for each line, unless there are
no lines. -/
theorem sizes_lineParts (m : Mode) (messages : List (List UInt8)) {times : List Int}
    {authors : List Nat} (ht : times.length = messages.length)
    (ha : authors.length = messages.length) :
    Field.sizes m (if messages.isEmpty then [] else sized messages.flatten) +
      (Field.sizes m (times.map .stamp) + Field.sizes m (authors.map .word) +
        Field.sizes m (extents 0 messages)) =
      if messages.length = 0 then 0
      else m.width + messages.flatten.length + messages.length * (8 + 3 * m.width) := by
  have entries : messages.length * (8 + 3 * m.width) =
      messages.length * 8 + messages.length * m.width + messages.length * (2 * m.width) := by
    ring
  rw [sizes_map_stamp, sizes_map_word, sizes_extents, ht, ha, entries]
  rcases messages with - | ⟨message, messages⟩
  · simp
  · have some : ¬(message :: messages).length = 0 := Nat.succ_ne_zero _
    rw [if_neg some]
    simp only [List.isEmpty_cons, Bool.false_eq_true, if_false, sizes_sized]

/-- The parts of a log, written one after the other, take the bytes that are added up. -/
theorem writtenSize_eq {authors : List Nat} (hauthors : authorNumbers log = .ok authors) :
    writtenSize log m authors = encodedSize log m := by
  have count : authors.length = (log.remarks.map fun l => utf8 l.message).length := by
    rw [length_authorNumbers hauthors, List.length_map, length_remarks]
  have times : (log.lines.toList.map fun l => l.time.epochMillis).length =
      (log.remarks.map fun l => utf8 l.message).length := by
    rw [List.length_map, List.length_map, length_remarks, Array.length_toList]
  have names := sizes_nameParts m (log.nameTexts.map utf8)
  have lines := sizes_lineParts m (log.remarks.map fun l => utf8 l.message) times count
  rw [List.length_map, length_nameTexts, length_names_flatten] at names
  rw [List.length_map, length_remarks, length_messages_flatten] at lines
  rw [writtenSize, encodedSize, ← names, ← lines, ← sizes_userPart, ← length_utf8 log.id.channel,
    ← sizes_sized, partsOf, textParts, channelPart]
  simp only [List.cons_append, List.nil_append, List.flatten_cons, List.flatten_nil,
    List.append_nil, Field.sizes_append, List.length_map, length_nameTexts]
  omega

/-- Where every message is a piece of the text, its span is as long as it is. -/
theorem total_messages_eq (formed : log.WellFormed) :
    total (log.lines.toList.map fun l => l.message.length) = messagesTotal log := by
  rw [messagesTotal, Log.remarks, List.map_map]
  congr 1
  refine List.map_congr_left fun l hl => ?_
  have fits := formed.messages_fit l (by simpa using hl)
  exact (Span.utf8ByteSize_textIn fits).symm

/-- The size that is reckoned for a log is its size and that of the absent parts. -/
theorem sizeBound_eq (formed : log.WellFormed) (m : Mode) :
    sizeBound log m = encodedSize log m + absentSize log m := by
  have user : m.width + log.id.user.utf8ByteSize =
      (if log.id.user = "" then 0 else m.width + log.id.user.utf8ByteSize) +
        (if log.id.user = "" then m.width else 0) := by
    split
    · next none =>
      rw [none, String.utf8ByteSize_empty, Nat.add_comm]
    · rfl
  have names : m.width + namesTotal log + (m.width + 2 * m.width * log.names.size) =
      (if log.names.size = 0 then 0
        else m.width + namesTotal log + (m.width + 2 * m.width * log.names.size)) +
        (if log.names.size = 0 then 2 * m.width else 0) := by
    split
    · next none =>
      have empty : namesTotal log = 0 := by
        rw [namesTotal, List.eq_nil_of_length_eq_zero ((length_nameTexts log).trans none)]
        rfl
      rw [none, empty]
      omega
    · rfl
  have lines : m.width + messagesTotal log + log.lines.size * (8 + 3 * m.width) =
      (if log.lines.size = 0 then 0
        else m.width + messagesTotal log + log.lines.size * (8 + 3 * m.width)) +
        (if log.lines.size = 0 then m.width else 0) := by
    split
    · next none =>
      have empty : messagesTotal log = 0 := by
        rw [messagesTotal, List.eq_nil_of_length_eq_zero ((length_remarks log).trans none)]
        rfl
      rw [none, empty]
      omega
    · rfl
  calc sizeBound log m
      = headerSize m + (m.width + log.id.channel.utf8ByteSize) +
          (m.width + log.id.user.utf8ByteSize) + (m.width + namesTotal log) +
          (m.width + messagesTotal log) + (m.width + 2 * m.width * log.names.size) +
          log.lines.size * (8 + 3 * m.width) := by
        rw [sizeBound, total_messages_eq formed]
        rfl
    _ = headerSize m + (m.width + log.id.channel.utf8ByteSize) +
          (m.width + log.id.user.utf8ByteSize) +
          (m.width + namesTotal log + (m.width + 2 * m.width * log.names.size)) +
          (m.width + messagesTotal log + log.lines.size * (8 + 3 * m.width)) := by omega
    _ = encodedSize log m + absentSize log m := by
        rw [user, names, lines, encodedSize, absentSize]
        omega

/-! ### Writing in a mode -/

theorem length_of_encode {o : ByteOrder} {out : List UInt8} (written : encode log m o = .ok out) :
    out.length = encodedSize log m := by
  obtain ⟨-, authors, hauthors, -, -, rfl⟩ := encode_eq_ok.mp written
  rw [length_writtenBytes, writtenSize_eq hauthors]

/-- A log that the library comes by is written where its size fits the mode, in so many bytes, -/
theorem exists_encode_of_fits (h : log.Obtained) (valid : log.valid = true)
    (fits : encodedSize log m ≤ m.max) (o : ByteOrder) :
    ∃ out, encode log m o = .ok out ∧ out.length = encodedSize log m := by
  have storable := h.storable
  obtain ⟨authors, hauthors⟩ := exists_authorNumbers storable.names_increase storable.authors_named
  have size := @writtenSize_eq log m authors hauthors
  rw [← size] at fits ⊢
  exact ⟨_, encode_eq_ok_of_authors valid storable.names_increase hauthors fits,
    length_writtenBytes log m o authors⟩

/-- and otherwise refused, for a number that does not fit. -/
theorem encode_of_lt (h : log.Obtained) (valid : log.valid = true)
    (large : m.max < encodedSize log m) (o : ByteOrder) :
    ∃ n, m.max < n ∧ encode log m o = .error (.overflow n m) := by
  have storable := h.storable
  obtain ⟨authors, hauthors⟩ := exists_authorNumbers storable.names_increase storable.authors_named
  rcases encode_cases m o valid hauthors with ⟨out, written⟩ | refused
  · -- what is written fits
    obtain ⟨-, authors', hauthors', -, fits, -⟩ := encode_eq_ok.mp written
    rw [writtenSize_eq hauthors'] at fits
    omega
  · exact refused

/-- The mode that is chosen is the first whose greatest number is not less than the reckoned
size. -/
theorem sizeBound_narrowest (log : Log) :
    sizeBound log (narrowest log) ≤ (narrowest log).max ∨
      narrowest log = .u64 ∧ Mode.u64.max < sizeBound log .u64 := by
  rw [narrowest]
  rcases chosen : Mode.all.find? fun m => sizeBound log m ≤ m.max with - | m
  · right
    have none := List.find?_eq_none.mp chosen .u64 (by decide)
    exact ⟨rfl, by simpa using none⟩
  · left
    simpa using List.find?_some chosen

/-- A valid log that was read off an answer or decoded is written in a mode exactly when its size
fits the mode, and then in just so many bytes; otherwise the failure is a number that does not fit.
No other failure is possible.  So the mode that is chosen for the log holds it if the reckoned size
fits the widest mode. -/
theorem encode_by_size (h : log.Obtained) (valid : log.valid = true) :
    (∀ (m : Mode) (o : ByteOrder),
      ((∃ out, encode log m o = .ok out) ↔ encodedSize log m ≤ m.max) ∧
      (∀ out, encode log m o = .ok out → out.length = encodedSize log m) ∧
      (m.max < encodedSize log m →
        ∃ n, m.max < n ∧ encode log m o = .error (.overflow n m))) ∧
    (sizeBound log .u64 ≤ Mode.u64.max →
      ∀ o : ByteOrder, ∃ out, encode log (narrowest log) o = .ok out) := by
  refine ⟨fun m o => ?_, fun small o => ?_⟩
  · rcases Nat.lt_or_ge m.max (encodedSize log m) with large | fits
    · obtain ⟨n, beyond, refused⟩ := encode_of_lt h valid large o
      refine ⟨iff_of_false ?_ large.not_ge, ?_, fun _ => ⟨n, beyond, refused⟩⟩
      · rintro ⟨out, written⟩
        rw [refused] at written
        cases written
      · intro out written
        rw [refused] at written
        cases written
    · obtain ⟨out, written, length⟩ := exists_encode_of_fits h valid fits o
      refine ⟨iff_of_true ⟨out, written⟩ fits, fun out' written' => ?_,
        fun large => absurd large fits.not_gt⟩
      rw [written] at written'
      cases written'
      exact length
  · rcases sizeBound_narrowest log with fits | ⟨-, large⟩
    · rw [sizeBound_eq h.wellFormed] at fits
      obtain ⟨out, written, -⟩ := exists_encode_of_fits h valid (Nat.le_of_add_right_le fits) o
      exact ⟨out, written⟩
    · exact absurd small large.not_ge

theorem encodedSize_leapSecond : encodedSize leapSecond .u16 = 74 := by
  rw [leapSecond_eq]
  cbv

/-- A line with letters of two bytes, without a user: 74 bytes in the narrowest mode, which is
chosen. -/
theorem encode_by_size_leapSecond :
    leapSecond.valid = true ∧ encodedSize leapSecond .u16 = 74 ∧
      narrowest leapSecond = .u16 ∧
      ∀ o, ∃ out, encode leapSecond (narrowest leapSecond) o = .ok out ∧ out.length = 74 := by
  have obtained : leapSecond.Obtained := .parsed ..
  have valid : leapSecond.valid = true := by decide
  have size := encodedSize_leapSecond
  have chosen : narrowest leapSecond = .u16 := by decide +kernel
  obtain ⟨exact_size, holds⟩ := encode_by_size obtained valid
  refine ⟨valid, size, chosen, fun o => ?_⟩
  obtain ⟨out, written⟩ := holds (by decide +kernel) o
  refine ⟨out, written, ?_⟩
  rw [chosen] at written
  rw [(exact_size .u16 o).2.1 out written, size]

end Scrollback.Codec
