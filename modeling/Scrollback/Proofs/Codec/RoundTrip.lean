/-
A log that has been written is read back.

The header that is read directs the reader to the parts of the log (`exists_header`, `Directs`).
From there on each reader is followed to the part that it reads: first the two texts and the names
(`Directs.opening`), then each line by itself (`Directs.exists_lineRead`).  Only the times are not
what they were: a leap second comes back as the second after it, and a time that the calendar does
not have is refused (`decode_encode`).
-/
import Scrollback.Proofs.Codec.Layout
import Scrollback.Proofs.Log.Obtained

namespace Scrollback

/-- The line that is read back when a line has been stored. -/
def Remark.restamped (l : Remark) : Remark :=
  { l with time := l.time.restamped }

namespace Log

theorem same_eq_true {a b : Log} : a.same b = true ↔
    a.id = b.id ∧ a.valid = b.valid ∧ a.nameTexts = b.nameTexts ∧ a.remarks = b.remarks := by
  simp [same, and_assoc]

@[simp] theorem same_self (log : Log) : log.same log = true :=
  same_eq_true.mpr ⟨rfl, rfl, rfl, rfl⟩

/-- A log as it is read back when another one has been stored: all is the same but for the times,
which have become the instants of their milliseconds. -/
structure ReadBack (log back : Log) : Prop where
  id : back.id = log.id
  valid : back.valid = true
  names : back.nameTexts = log.nameTexts
  lines : back.remarks = log.remarks.map Remark.restamped

/-- What is read back is the log itself exactly if there is no leap second in it. -/
theorem ReadBack.same_iff {log back : Log} (h : log.ReadBack back) (valid : log.valid = true) :
    back.same log = true ↔ ∀ l ∈ log.lines, ¬l.time.IsLeap := by
  have same : back.same log = true ↔ log.remarks.map Remark.restamped = log.remarks := by
    simp [Log.same, h.id, h.valid, h.names, h.lines, valid]
  rw [same, remarks, List.map_map, List.map_inj_left]
  constructor
  · intro hl l hmem
    have := congrArg Remark.time (hl l hmem.val)
    exact Instant.ofMillis_epochMillis.mp this
  · intro hl l hmem
    have := Instant.ofMillis_epochMillis.mpr (hl l (Array.mem_def.mpr hmem))
    simp only [Function.comp_apply, Remark.restamped, remarkAt, this]

end Log

namespace Codec

variable {log : Log} {m : Mode} {o : ByteOrder} {authors : List Nat} {out : List UInt8}

/-- The bytes of the names. -/
def nameBytes (log : Log) : List (List UInt8) :=
  log.nameTexts.map utf8

/-- The bytes of the messages. -/
def messageBytes (log : Log) : List (List UInt8) :=
  log.remarks.map fun l => utf8 l.message

/-- The numbers of a header as they stand there: the line count, then the offsets of the parts. -/
def Header.numbers (h : Header) : List Nat :=
  [h.lineCount, h.channel, h.user, h.names, h.messages, h.nameTable, h.timestamps, h.authors,
    h.messageTable]

/-- A header that says of a log where in the bytes its parts stand. -/
structure Directs (log : Log) (authors : List Nat) (m : Mode) (o : ByteOrder)
    (out : List UInt8) (h : Header) : Prop where
  mode : h.mode = m
  order : h.order = o
  period : h.period = log.id.period
  numbers : h.numbers = log.lines.size :: offsets m (headerSize m) (partsOf log authors)
  channel : Placed m o out (channelPart log.id) h.channel
  user : Placed m o out (userPart log.id) h.user
  names : Placed m o out
    (if (nameBytes log).isEmpty then [] else sized (nameBytes log).flatten) h.names
  messages : Placed m o out
    (if (messageBytes log).isEmpty then [] else sized (messageBytes log).flatten) h.messages
  nameTable : Placed m o out
    (if (nameBytes log).isEmpty then []
      else .word (nameBytes log).length :: extents 0 (nameBytes log)) h.nameTable
  timestamps : Placed m o out
    ((log.lines.toList.map fun l => l.time.epochMillis).map .stamp) h.timestamps
  authors : Placed m o out (authors.map .word) h.authors
  messageTable : Placed m o out (extents 0 (messageBytes log)) h.messageTable

/-! ### The header -/

/-- The header of a log stands behind the tags, and the parts behind the header. -/
theorem stands_written (log : Log) (m : Mode) (o : ByteOrder) (authors : List Nat) :
    Stands m o (writtenBytes log m o authors) preambleSize
      (headerFields m log (partsOf log authors) ++ (partsOf log authors).flatten) :=
  ⟨[m.tag, o.tag] ++ List.replicate (preambleSize - 2) 0, [], by simp [writtenBytes], rfl⟩

theorem readTags_written (log : Log) (m : Mode) (authors : List Nat) :
    readTags (writtenBytes log m .native authors).toByteArray =
      .ok (sourceOf m .native (writtenBytes log m .native authors)) := by
  have long : ¬(writtenBytes log m .native authors).toByteArray.size < preambleSize := by
    rw [size_toByteArray, length_writtenBytes, writtenSize, headerSize]
    omega
  have mode : (writtenBytes log m .native authors).toByteArray.get! 0 = m.tag := by
    simp [writtenBytes, ByteArray.get!]
  have order : (writtenBytes log m .native authors).toByteArray.get! 1 = ByteOrder.native.tag := by
    simp [writtenBytes, ByteArray.get!]
  simp only [readTags, if_neg long, mode, order, Mode.ofTag?_tag, ByteOrder.ofTag?_tag]
  rfl

/-- The numbers of the header are those of the log's lines and the offsets of its parts. -/
theorem header_word (small : writtenSize log m authors ≤ m.max) {i n : Nat}
    (hn : (log.lines.size :: offsets m (headerSize m) (partsOf log authors))[i]? = some n) :
    (sourceOf m o (writtenBytes log m o authors)).word (preambleSize + i * m.width) .header =
      .ok n := by
  have stands := (stands_written log m o authors).left
  have bounded := (bounded_headerFields log m authors).mono small
  obtain ⟨hi, rfl⟩ := List.getElem?_eq_some_iff.mp hn
  exact Stands.words stands (Field.bounded_append.mp bounded).1 hi

theorem header_period (log : Log) (m : Mode) (o : ByteOrder) (authors : List Nat) :
    (sourceOf m o (writtenBytes log m o authors)).stamp
        (preambleSize + headerWords * m.width) .header = .ok log.id.period.start ∧
      (sourceOf m o (writtenBytes log m o authors)).stamp
        (preambleSize + headerWords * m.width + 8) .header = .ok log.id.period.stop := by
  have stands := (stands_written log m o authors).left.right
  have words : Field.sizes m ((log.lines.size ::
      offsets m (headerSize m) (partsOf log authors)).map .word) = headerWords * m.width := by
    rw [sizes_map_word, List.length_cons, length_offsets]
    rfl
  have ordered := log.id.period.start_le_stop
  have low := log.id.period.min_le_start
  have high := log.id.period.stop_le_max
  simp only [Instant.minMillis, Instant.maxMillis] at low high
  rw [← words]
  exact ⟨stands.stamp (by omega) (by omega), stands.tail.stamp (by omega) (by omega)⟩

/-- The offsets of the parts are where the parts are, in either byte order. -/
theorem exists_directs (fits : Field.Bounded m.max (partsOf log authors).flatten) :
    ∃ h, Directs log authors m o (writtenBytes log m o authors) h := by
  have stands : Stands m o (writtenBytes log m o authors) (headerSize m)
      (partsOf log authors).flatten := by
    have behind := (stands_written log m o authors).right
    rwa [sizes_headerFields, ← Nat.add_assoc] at behind
  have placed := forall₂_offsets stands fits (by simp [headerSize, preambleSize])
  generalize places : offsets m (headerSize m) (partsOf log authors) = offsets at placed
  simp only [partsOf, textParts, List.cons_append, List.nil_append, List.forall₂_cons_left_iff,
    List.forall₂_nil_left_iff] at placed
  obtain ⟨channel, _, hchannel, ⟨user, _, huser, ⟨names, _, hnames, ⟨messages, _, hmessages,
    ⟨nameTable, _, hnameTable, ⟨timestamps, _, htimestamps, ⟨numbers, _, hnumbers,
    ⟨messageTable, _, hmessageTable, rfl, rfl⟩, rfl⟩, rfl⟩, rfl⟩, rfl⟩, rfl⟩, rfl⟩, rfl⟩ := placed
  exact ⟨⟨m, o, log.lines.size, channel, user, names, messages, nameTable, timestamps, numbers,
    messageTable, log.id.period⟩, ⟨rfl, rfl, rfl, by rw [places]; rfl, hchannel, huser, hnames,
    hmessages, hnameTable, htimestamps, hnumbers, hmessageTable⟩⟩

/-- The header is read back. -/
theorem readHeader_written {h : Header}
    (d : Directs log authors m .native (writtenBytes log m .native authors) h)
    (small : writtenSize log m authors ≤ m.max) :
    readHeader (writtenBytes log m .native authors).toByteArray = .ok h := by
  have word := @header_word log m .native authors small
  have period := header_period log m .native authors
  rw [← d.numbers] at word
  obtain ⟨mode, order, _, _, _, _, _, _, _, _, _, _⟩ := h
  obtain rfl : mode = m := d.mode
  obtain rfl : order = .native := d.order
  obtain rfl := d.period
  simp only [readHeader, Except.bind_eq_ok, Except.mapError_eq_ok, Except.pure_eq_ok]
  exact ⟨_, readTags_written log _ authors, _, period.1, _, period.2, _, word rfl, _, word rfl,
    _, word rfl, _, word rfl, _, word rfl, _, word rfl, _, word rfl, _, word rfl, _, word rfl,
    _, Period.make?_bounds _, rfl⟩

/-! ### Texts and names -/

/-- The text that the parts of a log are spans of, once it has been read back. -/
def joined (log : Log) : String :=
  String.join log.nameTexts ++ String.join (log.remarks.map Remark.message)

theorem utf8_joined (log : Log) :
    utf8 (joined log) = (nameBytes log).flatten ++ (messageBytes log).flatten := by
  rw [joined, utf8_append, utf8_join, utf8_join, List.map_map]
  rfl

/-- The names are cut out of the text by the spans of the name table. -/
theorem forall₂_names (log : Log) :
    List.Forall₂ (fun s x => s.Fits (joined log) ∧ s.textIn (joined log) = x)
      (stretches 0 (nameBytes log)) log.nameTexts := by
  refine @forall₂_stretches (joined log) "" (String.join (log.remarks.map Remark.message)) _ ?_
  rw [joined, utf8_append, utf8_join]
  rfl

theorem map_textIn_names (log : Log) :
    (stretches 0 (nameBytes log)).map (fun s => s.textIn (joined log)) = log.nameTexts := by
  rw [← List.forall₂_eq_eq_eq, List.forall₂_map_left_iff]
  exact (forall₂_names log).imp fun s x hs => hs.2

/-- The messages are cut out of the text by the spans behind the names. -/
theorem forall₂_messages (log : Log) :
    List.Forall₂ (fun s x => s.Fits (joined log) ∧ s.textIn (joined log) = x)
      (stretches (nameBytes log).flatten.length (messageBytes log))
      (log.remarks.map Remark.message) := by
  have spans := @forall₂_stretches (joined log) (String.join log.nameTexts) ""
    (log.remarks.map Remark.message) ?_
  · rw [← length_utf8, utf8_join, List.map_map] at spans
    exact spans
  · rw [joined, utf8_append, utf8_join (log.remarks.map _), utf8_empty, List.append_nil]

namespace Directs

variable {h : Header}

theorem source (d : Directs log authors m o out h) :
    h.source out.toByteArray = sourceOf m o out := by
  rw [Header.source, d.mode, d.order, sourceOf]

theorem lineCount (d : Directs log authors m o out h) : h.lineCount = log.lines.size :=
  (List.cons.inj d.numbers).1

/-- The name table is read back. -/
theorem readNames (d : Directs log authors m o out h) :
    Codec.readNames (sourceOf m o out) h.nameTable (joined log)
      (nameBytes log).flatten.toByteArray.size = .ok (stretches 0 (nameBytes log)) := by
  have placed := d.nameTable
  have texts := forall₂_names log
  by_cases none : (nameBytes log).isEmpty
  · -- no names, no table: its offset is zero
    rw [if_pos none] at placed
    rw [placed.absent rfl, readNames_zero, List.isEmpty_iff.mp none]
    rfl
  · rw [if_neg none] at placed
    obtain ⟨offset, stands⟩ := placed.present (by simp)
    rw [readNames_eq_ok offset]
    have length := length_stretches 0 (nameBytes log)
    refine ⟨?_, ?_, fun i hi => ?_⟩
    · rw [length]
      exact stands.word (placed.fits _ (by simp))
    · rw [length]
      exact stands.tail.room (sizes_extents ..)
    · have words := @Stands.extents m o out _ .nameTable _ _ i _ stands.tail
        (fun n hn => placed.fits n (by simp [hn])) (List.getElem?_eq_getElem hi)
      refine ⟨words.1, words.2, ?_, ?_⟩
      · have := stop_le_of_mem_stretches (List.getElem_mem hi)
        rw [size_toByteArray]
        omega
      · exact (texts.get hi (texts.length_eq ▸ hi)).1

/-- All that is read before the lines. -/
def opening (d : Directs log authors m o out h) (increase : log.NamesIncrease)
    (read : readHeader out.toByteArray = .ok h) : Opening out.toByteArray where
  header := h
  channel := log.id.channel
  user := log.id.user
  nameBlob := (nameBytes log).flatten.toByteArray
  messageBlob := (messageBytes log).flatten.toByteArray
  text := joined log
  names := stretches 0 (nameBytes log)
  header_read := read
  channel_present := (d.channel.present (by simp [channelPart, sized])).1
  channel_read := by
    rw [d.source, d.channel.sized.2]
    exact textOf_eq_ok.mpr rfl
  user_read := by
    have empty : log.id.user = "" → utf8 log.id.user = [] := by
      intro h
      rw [h, utf8_empty]
    rw [d.source, d.user.sizedOrEmpty empty]
    exact textOf_eq_ok.mpr rfl
  nameBlob_read := by
    rw [d.source]
    exact d.names.sizedOrEmpty fun none => by rw [List.isEmpty_iff.mp none, List.flatten_nil]
  messageBlob_read := by
    rw [d.source]
    exact d.messages.sizedOrEmpty fun none => by rw [List.isEmpty_iff.mp none, List.flatten_nil]
  text_read := by
    rw [textOf_eq_ok, utf8_joined, List.toByteArray_append]
  names_read := by
    rw [d.source]
    exact d.readNames
  names_increase := by
    have texts : (stretches 0 (nameBytes log)).map (fun n => utf8 (n.textIn (joined log))) =
        log.nameTexts.map utf8 := by
      rw [← map_textIn_names log, List.map_map]
      rfl
    rw [increasing_iff, texts]
    exact increase

/-! ### Lines -/

/-- The time of a line is found in its place. -/
theorem stamp (d : Directs log authors m o out h) {i : Nat} (hi : i < log.lines.size)
    (time : log.lines[i].time.FitsWord) :
    (sourceOf m o out).stamp (h.timestamps + i * 8) .timestamps =
      .ok log.lines[i].time.epochMillis := by
  have length : i < (log.lines.toList.map fun l => l.time.epochMillis).length := by
    rwa [List.length_map, Array.length_toList]
  obtain ⟨-, stands⟩ := d.timestamps.present (List.ne_nil_of_length_pos (by
    rw [List.length_map]
    omega))
  have stamp := @Stands.stamps _ _ _ _ .timestamps _ stands _ length
  simp only [List.getElem_map, Array.getElem_toList] at stamp
  exact stamp time.1 time.2

/-- The number of a line's author is found in its place. -/
theorem author (d : Directs log authors m o out h) (increase : log.NamesIncrease)
    (hauthors : authorNumbers log = .ok authors) {i : Nat} (hi : i < log.lines.size) :
    ∃ index, (sourceOf m o out).word (h.authors + i * m.width) .authorIndices = .ok index ∧
      log.nameTexts[index]? = some (log.textOf log.lines[i].author) := by
  have numbered := authorNumbers_eq_ok.mp hauthors
  have remarks : i < log.remarks.length := by
    rwa [Log.remarks, List.length_map, Array.length_toList]
  have number : i < authors.length := numbered.length_eq ▸ remarks
  have placed := d.authors
  rw [← List.append_nil (authors.map Field.word)] at placed
  obtain ⟨-, stands⟩ := placed.present (List.ne_nil_of_length_pos (by
    rw [List.append_nil, List.length_map]
    omega))
  have named := numbered.get remarks number
  rw [Log.nameIndex?_eq_some increase] at named
  refine ⟨authors[i], stands.words (Field.bounded_append.mp placed.fits).1 number, ?_⟩
  simpa [Log.remarks, Log.remarkAt] using named

/-- The span of a line's message is found in its place. -/
theorem message (d : Directs log authors m o out h) {i : Nat} (hi : i < log.lines.size) :
    ∃ span : Span,
      (sourceOf m o out).word (h.messageTable + i * (2 * m.width)) .messageTable =
        .ok span.offset ∧
      (sourceOf m o out).word (h.messageTable + i * (2 * m.width) + m.width) .messageTable =
        .ok span.length ∧
      span.stop ≤ (messageBytes log).flatten.length ∧
      (span.moved (nameBytes log).flatten.length).Fits (joined log) ∧
      (span.moved (nameBytes log).flatten.length).textIn (joined log) =
        log.textOf log.lines[i].message := by
  have count : (messageBytes log).length = log.lines.size := by
    simp [messageBytes, Log.remarks]
  have length : i < (stretches 0 (messageBytes log)).length := by
    rwa [length_stretches, count]
  obtain ⟨-, stands⟩ := d.messageTable.present (by
    intro none
    have sizes := sizes_extents m 0 (messageBytes log)
    have width := Mode.width_pos m
    rw [none, count, Field.sizes_nil, eq_comm, Nat.mul_eq_zero] at sizes
    omega)
  have words := @Stands.extents _ _ _ _ .messageTable _ _ i _ stands d.messageTable.fits
    (List.getElem?_eq_getElem length)
  -- the table counts from the first message, the text has all the names before it
  have texts := forall₂_messages log
  rw [← Nat.add_zero (nameBytes log).flatten.length, stretches_add,
    List.forall₂_map_left_iff] at texts
  have text := texts.get length (texts.length_eq ▸ length)
  refine ⟨_, words.1, words.2, ?_, text.1, ?_⟩
  · have := stop_le_of_mem_stretches (List.getElem_mem length)
    omega
  · simpa [Log.remarks, Log.remarkAt] using text.2

/-- A line that is read in the place of another says the same, at the instant of the same
millisecond. -/
theorem exists_lineRead (d : Directs log authors m o out h) (increase : log.NamesIncrease)
    (hauthors : authorNumbers log = .ok authors) {i : Nat} (hi : i < log.lines.size)
    (time : log.lines[i].time.Representable) :
    ∃ line, LineRead (sourceOf m o out) h (joined log) (nameBytes log).flatten.toByteArray.size
        (messageBytes log).flatten.toByteArray.size (stretches 0 (nameBytes log)).toArray i line ∧
      (log.remarks.map Remark.restamped)[i]? = some
        ⟨line.time, line.author.textIn (joined log), line.message.textIn (joined log)⟩ := by
  obtain ⟨index, number, name⟩ := d.author increase hauthors hi
  obtain ⟨message, offset, length, inside, fits, text⟩ := d.message hi
  obtain ⟨hindex, hname⟩ := List.getElem?_eq_some_iff.mp name
  have texts := forall₂_names log
  have entry : index < (stretches 0 (nameBytes log)).length := texts.length_eq ▸ hindex
  have author := (texts.get entry hindex).2
  rw [size_toByteArray, size_toByteArray]
  refine ⟨⟨log.lines[i].time.restamped, (stretches 0 (nameBytes log))[index],
    message.moved (nameBytes log).flatten.length⟩, ⟨?_, ?_, ?_, fits⟩, ?_⟩
  · exact ⟨_, d.stamp hi time.fitsWord, Instant.ofMillis?_eq_restamped time⟩
  · exact ⟨index, number, by simp⟩
  · exact ⟨message.offset, offset, length, inside, rfl⟩
  · have remarks : (log.remarks.map Remark.restamped)[i]? =
        some (log.remarkAt log.lines[i]).restamped := by
      simp [Log.remarks, hi]
    rw [remarks, Option.some_inj]
    simp only [Remark.restamped, Log.remarkAt, Remark.mk.injEq, true_and]
    exact ⟨hname.symm.trans author.symm, text.symm⟩

/-- The lines are read one by one, if there are any. -/
theorem readLines_eq (d : Directs log authors m o out h)
    (hauthors : authorNumbers log = .ok authors) {text : String} {namesSize messagesSize : Nat}
    {names : Array Span} :
    readLines (sourceOf m o out) h text namesSize messagesSize names =
      (List.range log.lines.size).mapM
        (readLine (sourceOf m o out) h text namesSize messagesSize names) := by
  have count := d.lineCount
  by_cases none : log.lines.size = 0
  · rw [readLines_zero (count.trans none), none]
    rfl
  · have numbered := length_authorNumbers hauthors
    have messages : (messageBytes log).length = log.lines.size := by
      rw [messageBytes, List.length_map, length_remarks]
    have times := sizes_map_stamp m (log.lines.toList.map fun l => l.time.epochMillis)
    have indices := sizes_map_word m authors
    have table := sizes_extents m 0 (messageBytes log)
    have width := Mode.width_pos m
    rw [List.length_map, Array.length_toList] at times
    rw [numbered] at indices
    rw [messages] at table
    -- an array of no size would be absent
    have present : ∀ {fields : List Field} {offset size : Nat}, Placed m o out fields offset →
        Field.sizes m fields = log.lines.size * size → 0 < size →
        offset ≠ 0 ∧ Stands m o out offset fields := by
      intro fields offset size placed sizes pos
      refine placed.present ?_
      rintro rfl
      rw [Field.sizes_nil, eq_comm, Nat.mul_eq_zero] at sizes
      omega
    obtain ⟨ht, timestamps⟩ := present d.timestamps times (by omega)
    obtain ⟨ha, numbers⟩ := present d.authors indices width
    obtain ⟨hm, spans⟩ := present d.messageTable table (by omega)
    rw [Codec.readLines_eq (by omega) ⟨ht, ha, hm⟩, count]
    rw [count]
    exact ⟨timestamps.room times, numbers.room indices, spans.room table⟩

end Directs

/-! ### Whole logs -/

/-- Reading the bytes of a log comes down to reading its lines. -/
theorem exists_opening (storable : log.Storable) (written : encode log m .native = .ok out) :
    ∃ (authors : List Nat) (h : Header) (d : Directs log authors m .native out h)
      (read : readHeader out.toByteArray = .ok h), authorNumbers log = .ok authors ∧
      decode out.toByteArray = ((List.range log.lines.size).mapM
        (readLine (sourceOf m .native out) h (joined log) (nameBytes log).flatten.toByteArray.size
          (messageBytes log).flatten.toByteArray.size (stretches 0 (nameBytes log)).toArray)).map
        (d.opening storable.names_increase read).logWith := by
  obtain ⟨-, authors, hauthors, fits, small, rfl⟩ := encode_eq_ok.mp written
  obtain ⟨h, d⟩ := @exists_directs log m .native authors fits
  have read := readHeader_written d small
  refine ⟨authors, h, d, read, hauthors, ?_⟩
  rw [(d.opening storable.names_increase read).decode_eq, ← d.readLines_eq hauthors, Opening.readLines]
  show Except.map _ (readLines (h.source _) _ _ _ _ _) = _
  rw [d.source]
  rfl

/-- A log whose times the calendar has is read back. -/
theorem decode_of_representable (storable : log.Storable)
    (written : encode log m .native = .ok out)
    (times : ∀ l ∈ log.lines, l.time.Representable) :
    ∃ back, decode out.toByteArray = .ok back ∧ log.ReadBack back := by
  obtain ⟨authors, h, d, read, hauthors, reading⟩ := exists_opening storable written
  obtain ⟨lines, length, hlines⟩ := List.exists_of_forall_lt fun i hi =>
    d.exists_lineRead storable.names_increase hauthors hi (times _ (Array.getElem_mem hi))
  refine ⟨(d.opening storable.names_increase read).logWith lines, ?_, ?_, rfl, ?_, ?_⟩
  · rw [reading, Except.map_eq_ok]
    exact ⟨lines, Except.mapM_range_eq_ok.mpr
      ⟨length, fun i hi => readLine_eq_ok.mpr (hlines i hi).1⟩, rfl⟩
  · show LogId.mk log.id.channel h.period log.id.user = log.id
    rw [d.period]
  · exact map_textIn_names log
  · -- each line is known by its place, so the lists are compared place by place
    apply List.ext_getElem?
    intro i
    rcases Nat.lt_or_ge i lines.length with lt | ge
    · rw [(hlines i lt).2]
      simp [Log.remarks, Opening.logWith, Log.remarkAt, Log.textOf, Directs.opening, lt]
    · rw [List.getElem?_eq_none, List.getElem?_eq_none]
      · simp [Log.remarks]
        omega
      · simpa [Log.remarks, Opening.logWith] using ge

/-- A log with a time that the calendar does not have is refused, for the first such time. -/
theorem decode_of_not_representable (storable : log.Storable)
    (written : encode log m .native = .ok out)
    (times : ∃ l ∈ log.lines, ¬l.time.Representable) :
    ∃ l ∈ log.lines, ¬l.time.Representable ∧
      decode out.toByteArray = .error (.time (.outOfRange l.time.epochMillis)) := by
  obtain ⟨authors, h, d, read, hauthors, reading⟩ := exists_opening storable written
  have bad : ∃ i, ∃ hi : i < log.lines.size, ¬log.lines[i].time.Representable := by
    obtain ⟨l, hl, hbad⟩ := times
    obtain ⟨i, hi, rfl⟩ := Array.getElem_of_mem hl
    exact ⟨i, hi, hbad⟩
  -- the lines before the first bad one are read, so that its failure is the one reported
  obtain ⟨hk, hbad⟩ := Nat.find_spec bad
  have first : ∀ i < Nat.find bad, ∃ line, readLine (sourceOf m .native out) h (joined log)
      (nameBytes log).flatten.toByteArray.size (messageBytes log).flatten.toByteArray.size
      (stretches 0 (nameBytes log)).toArray i = .ok line := by
    intro i hi
    have good := Nat.find_min bad hi
    have size : i < log.lines.size := by omega
    rw [not_exists] at good
    obtain ⟨line, hline, -⟩ := d.exists_lineRead storable.names_increase hauthors size
      (not_not.mp (good size))
    exact ⟨line, readLine_eq_ok.mpr hline⟩
  refine ⟨_, Array.getElem_mem hk, hbad, ?_⟩
  rw [reading, Except.mapM_range_eq_error hk first]
  · rfl
  · rw [readLine, d.stamp hk (storable.times_fit _ (Array.getElem_mem hk))]
    show ((Instant.ofMillis? _).mapError CodecError.time >>= _) = _
    rw [Instant.ofMillis?_eq_error hbad]
    rfl

/-- What has been written is read back: the same log, at the instants of the same milliseconds,
and so the very same one unless there is a leap second in it.  Only a time that the calendar does
not have is refused. -/
theorem decode_encode (obtained : log.Obtained) (written : encode log m .native = .ok out) :
    ((∀ l ∈ log.lines, l.time.Representable) →
      ∃ back, decode out.toByteArray = .ok back ∧ log.ReadBack back ∧
        (back.same log = true ↔ ∀ l ∈ log.lines, ¬l.time.IsLeap)) ∧
    ((∃ l ∈ log.lines, ¬l.time.Representable) →
      ∃ l ∈ log.lines, ¬l.time.Representable ∧
        decode out.toByteArray = .error (.time (.outOfRange l.time.epochMillis))) := by
  refine ⟨fun times => ?_, decode_of_not_representable obtained.storable written⟩
  obtain ⟨back, read, same⟩ := decode_of_representable obtained.storable written times
  exact ⟨back, read, same, same.same_iff (encode_eq_ok.mp written).1⟩

/-- The first second of 1970. -/
def firstSecond : Period := ⟨0, 1000, by decide, by decide, by decide⟩

/-- One line, in a leap second. -/
def leapSecond : Log :=
  Service.gempir.parse ⟨"a", firstSecond, ""⟩
    "[2016-12-31 23:59:60] #a bö: é"

set_option maxRecDepth 10000 in
theorem leapSecond_eq :
    leapSecond = ⟨⟨"a", firstSecond, ""⟩, "[2016-12-31 23:59:60] #a bö: é", true, #[⟨25, 3⟩],
      #[⟨⟨1483228799, 1000⟩, ⟨25, 3⟩, ⟨30, 2⟩⟩]⟩ := by
  cbv

theorem obtained_leapSecond : leapSecond.Obtained := .parsed ..

theorem exists_encode_leapSecond (o : ByteOrder) : ∃ out, encode leapSecond .u16 o = .ok out := by
  have valid : leapSecond.valid = true := by rw [leapSecond_eq]
  have lines : leapSecond.lines = #[⟨⟨1483228799, 1000⟩, ⟨25, 3⟩, ⟨30, 2⟩⟩] := by
    rw [leapSecond_eq]
  have names : leapSecond.nameTexts = ["bö"] := by
    rw [leapSecond_eq]
    cbv
  have remarks : leapSecond.remarks = [⟨⟨1483228799, 1000⟩, "bö", "é"⟩] := by
    rw [leapSecond_eq]
    cbv
  have increase := obtained_leapSecond.storable.names_increase
  have authors : authorNumbers leapSecond = .ok [0] := by
    rw [authorNumbers_eq_ok, remarks]
    refine .cons ?_ .nil
    rw [Log.nameIndex?_eq_some increase, names]
    rfl
  have small : writtenSize leapSecond .u16 [0] ≤ Mode.u16.max := by
    rw [writtenSize, partsOf, names, remarks, lines]
    decide
  exact ⟨_, encode_eq_ok_of_authors valid increase authors small⟩

theorem representable_leapSecond : ∀ l ∈ leapSecond.lines, l.time.Representable := by
  rw [leapSecond_eq]
  decide

theorem leap_leapSecond : ¬∀ l ∈ leapSecond.lines, ¬l.time.IsLeap := by
  rw [leapSecond_eq]
  simp [Instant.IsLeap]

theorem decode_encode_leapSecond :
    ∃ out back, encode leapSecond .u16 .native = .ok out ∧
      decode out.toByteArray = .ok back ∧ leapSecond.ReadBack back ∧
      back.same leapSecond = false := by
  obtain ⟨out, written⟩ := exists_encode_leapSecond .native
  obtain ⟨back, read, same, leaps⟩ :=
    (decode_encode obtained_leapSecond written).1 representable_leapSecond
  exact ⟨out, back, written, read, same,
    Bool.eq_false_iff.mpr fun h => leap_leapSecond (leaps.mp h)⟩

end Codec

end Scrollback
