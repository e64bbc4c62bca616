/-
What a reader of stored logs accepts.  An `Opening` of some bytes is everything that `decode` takes
from them before the lines, with the checks that each piece has passed; from there on decoding is a
matter of the lines alone (`Opening.decode_eq`), and each line is a matter of its own
(`readLine_eq_ok`).
-/
import Scrollback.Proofs.Log.Names
import Scrollback.Proofs.Outcome

namespace Scrollback.Codec

/-! ### Stretches and numbers -/

namespace Source

variable {s : Source} {start length count size : Nat} {part : CodecPart}

theorem slice_eq_ok {b : ByteArray} :
    s.slice start length part = .ok b ↔
      start + length ≤ s.bytes.size ∧ s.bytes.extract start (start + length) = b := by
  unfold slice
  split
  · next h => simp [h]
  · next h => simp [h]

theorem room_eq_ok {u : Unit} :
    s.room start count size part = .ok u ↔ start + count * size ≤ s.bytes.size := by
  rw [room, Except.map_eq_ok]
  simp [slice_eq_ok]

theorem sized_eq_ok {b : ByteArray} :
    s.sized start part = .ok b ↔
      ∃ n, s.word start part = .ok n ∧ s.slice (start + s.mode.width) n part = .ok b :=
  Except.bind_eq_ok

end Source

section

variable {s : Source} {start : Nat} {part : CodecPart}

/-- A number that has been read lies within the bytes. -/
theorem le_of_word {n : Nat} (read : s.word start part = .ok n) :
    start + s.mode.width ≤ s.bytes.size := by
  obtain ⟨b, cut, -⟩ := Except.map_eq_ok.mp read
  exact (Source.slice_eq_ok.mp cut).1

/-- So does a time, -/
theorem le_of_stamp {millis : Int} (read : s.stamp start part = .ok millis) :
    start + 8 ≤ s.bytes.size := by
  obtain ⟨b, cut, -⟩ := Except.map_eq_ok.mp read
  exact (Source.slice_eq_ok.mp cut).1

/-- and a stretch with its size in front. -/
theorem le_of_sized {b : ByteArray} (read : s.sized start part = .ok b) :
    start + s.mode.width + b.size ≤ s.bytes.size := by
  obtain ⟨n, -, cut⟩ := Source.sized_eq_ok.mp read
  obtain ⟨inside, rfl⟩ := Source.slice_eq_ok.mp cut
  rw [ByteArray.size_extract]
  omega

end

/-! ### The tags -/

theorem bytes_of_readTags {bytes : ByteArray} {s : Source} (h : readTags bytes = .ok s) :
    s.bytes = bytes := by
  rw [readTags, Except.throw_if_bind_eq_ok] at h
  obtain ⟨-, h⟩ := h
  dsimp only at h
  split at h
  · cases h
  · split at h
    · cases h
    · split at h
      · cases h
        rfl
      · cases h

/-! ### The name table -/

/-- The `i`-th entry of a name table at `start` is a span of the names. -/
structure NameRead (s : Source) (start : Nat) (text : String) (namesSize i : Nat)
    (span : Span) : Prop where
  offset : s.word (start + s.mode.width + i * (2 * s.mode.width)) .nameTable = .ok span.offset
  length : s.word (start + s.mode.width + i * (2 * s.mode.width) + s.mode.width) .nameTable =
    .ok span.length
  stop_le : span.stop ≤ namesSize
  fits : span.Fits text

theorem readNames_zero (s : Source) (text : String) (namesSize : Nat) :
    readNames s 0 text namesSize = .ok [] := rfl

theorem readNames_eq_ok {s : Source} {start : Nat} {text : String} {namesSize : Nat}
    {spans : List Span} (hs : start ≠ 0) :
    readNames s start text namesSize = .ok spans ↔
      s.word start .nameTable = .ok spans.length ∧
      s.room (start + s.mode.width) spans.length (2 * s.mode.width) .nameTable = .ok () ∧
      ∀ i (h : i < spans.length), NameRead s start text namesSize i spans[i] := by
  simp only [readNames, if_neg hs, Except.bind_eq_ok, Except.mapM_range_eq_ok,
    Except.throw_if_bind_eq_ok, Except.pure_eq_ok]
  constructor
  · rintro ⟨count, hcount, _, hroom, rfl, hread⟩
    refine ⟨hcount, hroom, fun i hi => ?_⟩
    obtain ⟨offset, ho, length, hl, hchecks, hspan⟩ := hread i hi
    simp only [Bool.or_eq_true, decide_eq_true_eq, Bool.not_eq_eq_eq_not, Bool.not_true,
      decide_eq_false_iff_not, not_or, not_not, Nat.not_lt] at hchecks
    rw [← hspan]
    exact ⟨ho, hl, hchecks.1, hchecks.2⟩
  · rintro ⟨hcount, hroom, hread⟩
    refine ⟨_, hcount, (), hroom, rfl, fun i hi => ?_⟩
    have r := hread i hi
    refine ⟨_, r.offset, _, r.length, ?_, rfl⟩
    simp [r.stop_le, r.fits]

/-! ### Lines -/

/-- What is read for the `i`-th line. -/
structure LineRead (s : Source) (h : Header) (text : String) (namesSize messagesSize : Nat)
    (names : Array Span) (i : Nat) (line : LineSpan) : Prop where
  time : ∃ millis, s.stamp (h.timestamps + i * 8) .timestamps = .ok millis ∧
    Instant.ofMillis? millis = .ok line.time
  author : ∃ index, s.word (h.authors + i * s.mode.width) .authorIndices = .ok index ∧
    names[index]? = some line.author
  message : ∃ offset,
    s.word (h.messageTable + i * (2 * s.mode.width)) .messageTable = .ok offset ∧
    s.word (h.messageTable + i * (2 * s.mode.width) + s.mode.width) .messageTable =
      .ok line.message.length ∧
    offset + line.message.length ≤ messagesSize ∧ line.message.offset = namesSize + offset
  fits : line.message.Fits text

theorem readLine_eq_ok {s : Source} {h : Header} {text : String} {namesSize messagesSize : Nat}
    {names : Array Span} {i : Nat} {line : LineSpan} :
    readLine s h text namesSize messagesSize names i = .ok line ↔
      LineRead s h text namesSize messagesSize names i line := by
  simp only [readLine, Except.bind_eq_ok, Except.mapError_eq_ok]
  constructor
  · rintro ⟨millis, hmillis, time, htime, index, hindex, hrest⟩
    rcases hname : names[index]? with - | author
    · simp only [hname, Except.throw_ne_ok] at hrest
    · simp only [hname, Except.bind_eq_ok, Except.throw_if_bind_eq_ok, Except.pure_eq_ok] at hrest
      obtain ⟨offset, ho, length, hl, hin, hfits, rfl⟩ := hrest
      refine ⟨⟨millis, hmillis, htime⟩, ⟨index, hindex, hname⟩,
        ⟨offset, ho, hl, Nat.not_lt.mp hin, rfl⟩, ?_⟩
      simpa using hfits
  · rintro ⟨⟨millis, hmillis, htime⟩, ⟨index, hindex, hname⟩, ⟨offset, ho, hl, hin, hoff⟩, hfits⟩
    refine ⟨millis, hmillis, _, htime, index, hindex, ?_⟩
    simp only [hname, Except.bind_eq_ok, Except.throw_if_bind_eq_ok, Except.pure_eq_ok]
    have hmessage : (⟨namesSize + offset, line.message.length⟩ : Span) = line.message := by
      rw [← hoff]
    refine ⟨offset, ho, _, hl, Nat.not_lt.mpr hin, ?_, ?_⟩
    · rw [hmessage]
      simpa using hfits
    · rw [hmessage]

theorem readLines_zero {s : Source} {h : Header} {text : String} {namesSize messagesSize : Nat}
    {names : Array Span} (hc : h.lineCount = 0) :
    readLines s h text namesSize messagesSize names = .ok [] := by
  simp [readLines, hc]

theorem readLines_eq_ok {s : Source} {h : Header} {text : String} {namesSize messagesSize : Nat}
    {names : Array Span} {lines : List LineSpan} (hc : h.lineCount ≠ 0) :
    readLines s h text namesSize messagesSize names = .ok lines ↔
      ((h.timestamps ≠ 0 ∧ h.authors ≠ 0 ∧ h.messageTable ≠ 0) ∧
        s.room h.timestamps h.lineCount 8 .timestamps = .ok () ∧
        s.room h.authors h.lineCount s.mode.width .authorIndices = .ok () ∧
        s.room h.messageTable h.lineCount (2 * s.mode.width) .messageTable = .ok ()) ∧
      lines.length = h.lineCount ∧
      ∀ i (hi : i < lines.length), LineRead s h text namesSize messagesSize names i lines[i] := by
  simp only [readLines, if_neg hc, Except.bind_eq_ok, Except.throw_if_bind_eq_ok,
    Except.mapM_range_eq_ok, readLine_eq_ok, Bool.or_eq_true, decide_eq_true_eq, not_or]
  constructor
  · rintro ⟨hoff, _, ht, _, ha, _, hm, hlines⟩
    exact ⟨⟨⟨hoff.1.1, hoff.1.2, hoff.2⟩, ht, ha, hm⟩, hlines⟩
  · rintro ⟨⟨hoff, ht, ha, hm⟩, hlines⟩
    exact ⟨⟨⟨hoff.1, hoff.2.1⟩, hoff.2.2⟩, (), ht, (), ha, (), hm, hlines⟩

/-- Where the arrays are there and have room for the lines, the lines are read one by one. -/
theorem readLines_eq {s : Source} {h : Header} {text : String} {namesSize messagesSize : Nat}
    {names : Array Span} (hc : h.lineCount ≠ 0)
    (present : h.timestamps ≠ 0 ∧ h.authors ≠ 0 ∧ h.messageTable ≠ 0)
    (rooms : s.room h.timestamps h.lineCount 8 .timestamps = .ok () ∧
      s.room h.authors h.lineCount s.mode.width .authorIndices = .ok () ∧
      s.room h.messageTable h.lineCount (2 * s.mode.width) .messageTable = .ok ()) :
    readLines s h text namesSize messagesSize names =
      (List.range h.lineCount).mapM (readLine s h text namesSize messagesSize names) := by
  obtain ⟨ht, ha, hm⟩ := present
  have offsets : ¬(decide (h.timestamps = 0) || decide (h.authors = 0) ||
      decide (h.messageTable = 0)) = true := by
    simp [ht, ha, hm]
  rw [readLines, if_neg hc, if_neg offsets]
  simp only [rooms.1, rooms.2.1, rooms.2.2]
  rfl

/-! ### Whole logs -/

/-- The bytes that a header stands at the front of, and how numbers are written in them. -/
def Header.source (h : Header) (bytes : ByteArray) : Source :=
  ⟨bytes, h.mode, h.order⟩

/-- Everything that is read from the bytes of a log before its lines. -/
structure Opening (bytes : ByteArray) where
  header : Header
  channel : String
  user : String
  nameBlob : ByteArray
  messageBlob : ByteArray
  text : String
  names : List Span
  header_read : readHeader bytes = .ok header
  channel_present : header.channel ≠ 0
  channel_read : ((header.source bytes).sized header.channel .channel >>= textOf) = .ok channel
  user_read : ((header.source bytes).sizedOrEmpty header.user .user >>= textOf) = .ok user
  nameBlob_read : (header.source bytes).sizedOrEmpty header.names .nameBlob = .ok nameBlob
  messageBlob_read :
    (header.source bytes).sizedOrEmpty header.messages .messageBlob = .ok messageBlob
  text_read : textOf (nameBlob ++ messageBlob) = .ok text
  names_read :
    readNames (header.source bytes) header.nameTable text nameBlob.size = .ok names
  names_increase : increasing (names.map fun n => utf8 (n.textIn text)) = true

namespace Opening

variable {bytes : ByteArray}

/-- The log, once its lines have been read. -/
def logWith (r : Opening bytes) (lines : List LineSpan) : Log :=
  ⟨⟨r.channel, r.header.period, r.user⟩, r.text, true, r.names.toArray, lines.toArray⟩

/-- Reading the lines, the last thing that is read. -/
def readLines (r : Opening bytes) : Except CodecError (List LineSpan) :=
  Codec.readLines (r.header.source bytes) r.header r.text r.nameBlob.size r.messageBlob.size r.names.toArray

/-- After the opening, decoding is a matter of the lines. -/
theorem decode_eq (r : Opening bytes) : decode bytes = r.readLines.map r.logWith := by
  obtain ⟨channelBytes, hchannel, channel⟩ := Except.bind_eq_ok.mp r.channel_read
  obtain ⟨userBytes, huser, user⟩ := Except.bind_eq_ok.mp r.user_read
  have nameBlob := r.nameBlob_read
  have messageBlob := r.messageBlob_read
  have names := r.names_read
  rw [Header.source] at hchannel huser nameBlob messageBlob names
  simp only [decode, r.header_read, bind, Except.bind, if_neg r.channel_present, hchannel, channel,
    huser, user, nameBlob, messageBlob, r.text_read, names, r.names_increase]
  rfl

end Opening

theorem decode_eq_ok {bytes : ByteArray} {log : Log} :
    decode bytes = .ok log ↔
      ∃ (r : Opening bytes) (lines : List LineSpan), r.readLines = .ok lines ∧
        r.logWith lines = log := by
  constructor
  · intro h
    simp only [decode, Except.bind_eq_ok, Except.throw_if_bind_eq_ok, Except.pure_eq_ok] at h
    obtain ⟨h, hh, hc, channel, hchannel, user, huser, nameBlob, hnb, messageBlob, hmb, text, ht,
      names, hn, hi, lines, hl, rfl⟩ := h
    refine ⟨⟨h, channel, user, nameBlob, messageBlob, text, names, hh, hc,
      Except.bind_eq_ok.mpr hchannel, Except.bind_eq_ok.mpr huser, hnb, hmb, ht, hn, ?_⟩,
      lines, hl, rfl⟩
    simpa using hi
  · rintro ⟨r, lines, hlines, rfl⟩
    rw [r.decode_eq, hlines]
    rfl

end Scrollback.Codec
