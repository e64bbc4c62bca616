/-
Where the parts of a stored log stand.  `LaidOut` says of some bytes, place by place and in either
byte order, that they are a log: two tags and six zero bytes, nine numbers and two times, and then
the parts that the log has, each where the one before it ends.  The names stand there once each, in
their order, and the tables of the names and of the messages cut the two texts into pieces that
follow one another.

Nothing here is said through the writer, so a field in another's place or of another width would be
no such layout, even if a reader had it in the same wrong place.  That the offsets are the right
ones is one induction over the parts (`tile_of_offsets`).
-/
import Scrollback.Proofs.Codec.Size
import Scrollback.Proofs.Log.Spans

namespace Scrollback

/-- Ranges that follow one another without a gap, from one place to another. -/
def Span.Tile : Nat → List Span → Nat → Prop
  | start, [], stop => start = stop
  | start, s :: rest, stop => s.offset = start ∧ Tile s.stop rest stop

/-- Ranges that follow one another end where the last of them ends. -/
theorem Span.Tile.stop_le {start stop bound : Nat} {spans : List Span} (h : Tile start spans stop)
    (hstart : start ≤ bound) (within : ∀ s ∈ spans, s.stop ≤ bound) : stop ≤ bound := by
  induction spans generalizing start with
  | nil => exact h ▸ hstart
  | cons s rest ih =>
    exact ih h.2 (within s List.mem_cons_self) fun t ht => within t (List.mem_cons_of_mem _ ht)

theorem tile_stretches (start : Nat) (pieces : List (List UInt8)) :
    Span.Tile start (stretches start pieces) (start + pieces.flatten.length) := by
  induction pieces generalizing start with
  | nil => rfl
  | cons b rest ih =>
    refine ⟨rfl, ?_⟩
    rw [List.flatten_cons, List.length_append, ← Nat.add_assoc]
    exact ih (start + b.length)

/-- Each of some pieces is cut out by its stretch. -/
theorem map_stretches (front : List UInt8) (pieces : List (List UInt8)) :
    (stretches front.length pieces).map
      (fun s => ((front ++ pieces.flatten).drop s.offset).take s.length) = pieces := by
  induction pieces generalizing front with
  | nil => rfl
  | cons b rest ih =>
    have later := ih (front ++ b)
    rw [List.length_append, List.append_assoc] at later
    rw [stretches, List.map_cons, List.flatten_cons, later]
    simp

namespace Codec

variable {log : Log} {m : Mode} {o : ByteOrder} {authors : List Nat} {out : List UInt8}
  {h : Header}

/-! ### The layout -/

/-- The stretches of the parts.  A text has its size in front, the table of the names their number;
a table has two numbers for each entry. -/
def partSpans (log : Log) (w : Nat) (h : Header) : List Span :=
  [⟨h.channel, w + log.id.channel.utf8ByteSize⟩,
    ⟨h.user, w + log.id.user.utf8ByteSize⟩,
    ⟨h.names, w + (nameBytes log).flatten.length⟩,
    ⟨h.messages, w + (messageBytes log).flatten.length⟩,
    ⟨h.nameTable, w + log.names.size * (2 * w)⟩,
    ⟨h.timestamps, log.lines.size * 8⟩,
    ⟨h.authors, log.lines.size * w⟩,
    ⟨h.messageTable, log.lines.size * (2 * w)⟩]

/-- The entries of a table are spans which follow one another from the beginning of a text to its
end, and cut it into the given pieces. -/
structure Cuts (s : Source) (place : Nat) (part : CodecPart) (text : List UInt8)
    (pieces : List (List UInt8)) (spans : List Span) : Prop where
  entries : ∀ i (hi : i < spans.length),
    s.word (place + i * (2 * s.mode.width)) part = .ok spans[i].offset ∧
      s.word (place + i * (2 * s.mode.width) + s.mode.width) part = .ok spans[i].length
  consecutive : Span.Tile 0 spans text.length
  pieces : spans.map (fun n => (text.drop n.offset).take n.length) = pieces

/-- Some bytes are a log, with the given header. -/
structure LaidOut (log : Log) (s : Source) (h : Header) : Prop where
  tags : s.bytes.data.toList.take 8 = [s.mode.tag, s.order.tag, 0, 0, 0, 0, 0, 0]
  numbers : ∀ (i : Nat) n, h.numbers[i]? = some n →
    s.word (8 + i * s.mode.width) .header = .ok n
  start : s.stamp (8 + 9 * s.mode.width) .header = .ok log.id.period.start
  stop : s.stamp (8 + 9 * s.mode.width + 8) .header = .ok log.id.period.stop
  line_count : h.lineCount = log.lines.size
  /-- The offset of a part is zero exactly if the log has no such part. -/
  channel_present : h.channel ≠ 0
  user_absent : h.user = 0 ↔ log.id.user = ""
  names_absent : (h.names = 0 ↔ log.names.size = 0) ∧ (h.nameTable = 0 ↔ log.names.size = 0)
  lines_absent : (h.messages = 0 ↔ log.lines.size = 0) ∧ (h.timestamps = 0 ↔ log.lines.size = 0) ∧
    (h.authors = 0 ↔ log.lines.size = 0) ∧ (h.messageTable = 0 ↔ log.lines.size = 0)
  /-- The parts that are there fill all the bytes behind the header. -/
  consecutive : Span.Tile (8 + 9 * s.mode.width + 16)
    ((partSpans log s.mode.width h).filter fun p => p.offset ≠ 0) s.bytes.size
  channel : s.sized h.channel .channel = .ok (utf8 log.id.channel).toByteArray
  user : h.user ≠ 0 → s.sized h.user .user = .ok (utf8 log.id.user).toByteArray
  /-- The distinct names one after the other, however many lines refer to them. -/
  names : h.names ≠ 0 → s.sized h.names .nameBlob = .ok (nameBytes log).flatten.toByteArray
  messages : h.messages ≠ 0 →
    s.sized h.messages .messageBlob = .ok (messageBytes log).flatten.toByteArray
  name_table : h.nameTable ≠ 0 → s.word h.nameTable .nameTable = .ok log.names.size ∧
    ∃ spans, Cuts s (h.nameTable + s.mode.width) .nameTable (nameBytes log).flatten
      (nameBytes log) spans
  timestamps : ∀ i (hi : i < log.lines.size),
    s.stamp (h.timestamps + i * 8) .timestamps = .ok log.lines[i].time.epochMillis
  authors : ∀ i (hi : i < log.lines.size), ∃ index,
    s.word (h.authors + i * s.mode.width) .authorIndices = .ok index ∧
      log.nameTexts[index]? = some (log.textOf log.lines[i].author)
  message_table : h.messageTable ≠ 0 →
    ∃ spans, Cuts s h.messageTable .messageTable (messageBytes log).flatten (messageBytes log) spans

/-! ### Parts one after the other -/

/-- The stretches of the parts that are there follow one another, from the first place on. -/
theorem tile_of_offsets {spans : List Span} {parts : List (List Field)} {place : Nat}
    (hplace : place ≠ 0) (places : spans.map Span.offset = offsets m place parts)
    (lengths : List.Forall₂ (fun (s : Span) p => s.offset ≠ 0 → s.length = Field.sizes m p)
      spans parts) :
    Span.Tile place (spans.filter fun s => s.offset ≠ 0)
      (place + Field.sizes m parts.flatten) := by
  induction lengths generalizing place with
  | nil => rfl
  | @cons s p spans parts length _ ih =>
    rw [List.map_cons, offsets] at places
    obtain ⟨offset, later⟩ := List.cons.inj places
    have rest := ih (by omega) later
    rw [List.flatten_cons, Field.sizes_append, ← Nat.add_assoc]
    rcases p with - | ⟨f, p⟩
    · -- an absent part takes no room
      rwa [List.filter_cons_of_neg (by simpa using offset)]
    · have present : s.offset ≠ 0 := by
        rw [offset]
        exact hplace
      rw [List.filter_cons_of_pos (by simpa using present)]
      refine ⟨offset, ?_⟩
      rw [Span.stop, length present, offset]
      exact rest

namespace Placed

variable {bytes : List UInt8} {fields : List Field} {offset : Nat}

/-- A part that is left out in some case has no offset in just that case. -/
theorem offset_eq_zero {absent : Prop} (p : Placed m o bytes fields offset)
    (left_out : fields = [] ↔ absent) : offset = 0 ↔ absent :=
  ⟨fun zero => left_out.mp (by_contra fun some => (p.present some).1 zero),
    fun none => p.absent (left_out.mpr none)⟩

/-- A text that is there is found behind its size. -/
theorem sized_of_ne {empty : Prop} [Decidable empty] {piece : List UInt8} {part : CodecPart}
    (p : Placed m o bytes (if empty then [] else Codec.sized piece) offset) (present : offset ≠ 0) :
    (sourceOf m o bytes).sized offset part = .ok piece.toByteArray := by
  by_cases he : empty
  · rw [if_pos he] at p
    exact absurd (p.absent rfl) present
  · rw [if_neg he] at p
    exact p.sized.2

end Placed

/-- A table of pieces that follow one another cuts them out. -/
theorem Stands.cuts {place : Nat} {part : CodecPart} {pieces : List (List UInt8)}
    (stands : Stands m o out place (Codec.extents 0 pieces))
    (fits : Field.Bounded m.max (Codec.extents 0 pieces)) :
    Cuts (sourceOf m o out) place part pieces.flatten pieces (stretches 0 pieces) where
  entries := fun i hi => stands.extents fits (List.getElem?_eq_getElem hi)
  consecutive := by
    have tile := tile_stretches 0 pieces
    rwa [Nat.zero_add] at tile
  pieces := map_stretches [] pieces

/-! ### When a part is left out -/

theorem extents_eq_nil {start : Nat} {pieces : List (List UInt8)} :
    extents start pieces = [] ↔ pieces = [] := by
  cases pieces <;> simp [extents]

theorem nameBytes_eq_nil : nameBytes log = [] ↔ log.names.size = 0 := by
  rw [nameBytes, List.map_eq_nil_iff, ← List.length_eq_zero_iff, length_nameTexts]

theorem messageBytes_eq_nil : messageBytes log = [] ↔ log.lines.size = 0 := by
  rw [messageBytes, List.map_eq_nil_iff, ← List.length_eq_zero_iff, length_remarks]

theorem userPart_eq_nil {id : LogId} : userPart id = [] ↔ id.user = "" := by
  simp [userPart, sized]

/-- A part that is left out where there are no pieces. -/
theorem part_eq_nil {pieces : List (List UInt8)} {fields : List Field} (some : fields ≠ []) :
    (if pieces.isEmpty then [] else fields) = [] ↔ pieces = [] := by
  simp [some]

/-- The parts of a log in their order. -/
theorem partsOf_eq (log : Log) (authors : List Nat) :
    partsOf log authors =
      [channelPart log.id, userPart log.id,
        if (nameBytes log).isEmpty then [] else sized (nameBytes log).flatten,
        if (messageBytes log).isEmpty then [] else sized (messageBytes log).flatten,
        if (nameBytes log).isEmpty then []
          else .word (nameBytes log).length :: extents 0 (nameBytes log),
        (log.lines.toList.map fun l => l.time.epochMillis).map .stamp, authors.map .word,
        extents 0 (messageBytes log)] := rfl

namespace Directs

theorem user_eq_zero (d : Directs log authors m o out h) : h.user = 0 ↔ log.id.user = "" :=
  d.user.offset_eq_zero userPart_eq_nil

theorem names_eq_zero (d : Directs log authors m o out h) : h.names = 0 ↔ log.names.size = 0 :=
  d.names.offset_eq_zero ((part_eq_nil (by simp [sized])).trans nameBytes_eq_nil)

theorem nameTable_eq_zero (d : Directs log authors m o out h) :
    h.nameTable = 0 ↔ log.names.size = 0 :=
  d.nameTable.offset_eq_zero ((part_eq_nil (by simp)).trans nameBytes_eq_nil)

theorem messages_eq_zero (d : Directs log authors m o out h) :
    h.messages = 0 ↔ log.lines.size = 0 :=
  d.messages.offset_eq_zero ((part_eq_nil (by simp [sized])).trans messageBytes_eq_nil)

theorem timestamps_eq_zero (d : Directs log authors m o out h) :
    h.timestamps = 0 ↔ log.lines.size = 0 :=
  d.timestamps.offset_eq_zero (by simp)

theorem authors_eq_zero (d : Directs log authors m o out h)
    (hauthors : authorNumbers log = .ok authors) : h.authors = 0 ↔ log.lines.size = 0 := by
  refine d.authors.offset_eq_zero ?_
  rw [List.map_eq_nil_iff, ← List.length_eq_zero_iff, length_authorNumbers hauthors]

theorem messageTable_eq_zero (d : Directs log authors m o out h) :
    h.messageTable = 0 ↔ log.lines.size = 0 :=
  d.messageTable.offset_eq_zero (extents_eq_nil.trans messageBytes_eq_nil)

/-! ### The whole layout -/

/-- The stretches are as long as the parts that stand there. -/
theorem lengths (d : Directs log authors m o out h) (hauthors : authorNumbers log = .ok authors) :
    List.Forall₂ (fun (s : Span) p => s.offset ≠ 0 → s.length = Field.sizes m p)
      (partSpans log m.width h) (partsOf log authors) := by
  have numbered := length_authorNumbers hauthors
  have named : (nameBytes log).length = log.names.size := by
    rw [nameBytes, List.length_map, length_nameTexts]
  have texts : (messageBytes log).length = log.lines.size := by
    rw [messageBytes, List.length_map, length_remarks]
  have some_names : log.names.size ≠ 0 → ¬(nameBytes log).isEmpty = true := fun some none =>
    some (nameBytes_eq_nil.mp (List.isEmpty_iff.mp none))
  have some_lines : log.lines.size ≠ 0 → ¬(messageBytes log).isEmpty = true := fun some none =>
    some (messageBytes_eq_nil.mp (List.isEmpty_iff.mp none))
  rw [partsOf_eq]
  refine .cons ?channel (.cons ?user (.cons ?names (.cons ?messages (.cons ?nameTable
    (.cons ?timestamps (.cons ?numbers (.cons ?messageTable .nil)))))))
  case channel =>
    intro _
    rw [channelPart, sizes_sized, length_utf8]
  case user =>
    intro present
    rw [sizes_userPart, if_neg (d.user_eq_zero.not.mp present)]
  case names =>
    intro present
    rw [if_neg (some_names (d.names_eq_zero.not.mp present)), sizes_sized]
  case messages =>
    intro present
    rw [if_neg (some_lines (d.messages_eq_zero.not.mp present)), sizes_sized]
  case nameTable =>
    intro present
    rw [if_neg (some_names (d.nameTable_eq_zero.not.mp present)), Field.sizes_cons, sizes_extents,
      named]
    rfl
  case timestamps =>
    intro _
    rw [sizes_map_stamp, List.length_map, Array.length_toList]
  case numbers =>
    intro _
    rw [sizes_map_word, numbered]
  case messageTable =>
    intro _
    rw [sizes_extents, texts]

/-- The bytes that are written for a log are laid out as the header says. -/
theorem laidOut (d : Directs log authors m o (writtenBytes log m o authors) h)
    (storable : log.Storable) (hauthors : authorNumbers log = .ok authors)
    (small : writtenSize log m authors ≤ m.max) :
    LaidOut log (sourceOf m o (writtenBytes log m o authors)) h where
  tags := by
    rw [sourceOf, List.data_toByteArray]
    rfl
  numbers := by
    intro i n hn
    rw [d.numbers] at hn
    exact header_word small hn
  start := (header_period log m o authors).1
  stop := (header_period log m o authors).2
  line_count := d.lineCount
  channel_present := (d.channel.present (by simp [channelPart, sized])).1
  user_absent := d.user_eq_zero
  names_absent := ⟨d.names_eq_zero, d.nameTable_eq_zero⟩
  lines_absent := ⟨d.messages_eq_zero, d.timestamps_eq_zero, d.authors_eq_zero hauthors,
    d.messageTable_eq_zero⟩
  consecutive := by
    have behind : headerSize m ≠ 0 := by simp [headerSize, preambleSize]
    have places : (partSpans log m.width h).map Span.offset =
        offsets m (headerSize m) (partsOf log authors) := (List.cons.inj d.numbers).2
    have tile := tile_of_offsets behind places (d.lengths hauthors)
    rw [sourceOf, size_toByteArray, length_writtenBytes]
    exact tile
  channel := d.channel.sized.2
  user := fun present => d.user.sized_of_ne present
  names := fun present => d.names.sized_of_ne present
  messages := fun present => d.messages.sized_of_ne present
  name_table := by
    intro present
    have placed := d.nameTable
    have some : ¬(nameBytes log).isEmpty = true := fun none =>
      present (d.nameTable_eq_zero.mpr (nameBytes_eq_nil.mp (List.isEmpty_iff.mp none)))
    rw [if_neg some] at placed
    obtain ⟨-, stands⟩ := placed.present (by simp)
    refine ⟨?_, _, stands.tail.cuts fun n hn => placed.fits n (List.mem_cons_of_mem _ hn)⟩
    have count := @Stands.word _ _ _ _ _ .nameTable _ stands (placed.fits _ List.mem_cons_self)
    rwa [nameBytes, List.length_map, length_nameTexts] at count
  timestamps := fun i hi => d.stamp hi (storable.times_fit _ (Array.getElem_mem hi))
  authors := fun i hi => d.author storable.names_increase hauthors hi
  message_table := by
    intro present
    obtain ⟨-, stands⟩ := d.messageTable.present fun none =>
      present (d.messageTable.absent none)
    exact ⟨_, stands.cuts d.messageTable.fits⟩

end Directs

/-- What is written for a log follows the layout in every mode and byte order, and its header is the
one that is read where the order is that of the reader.  The names that stand there are in their
order, once each, and the authors of all lines are among them.  In a log that has been parsed there
are no others; one that has been read from bytes keeps the names that it had there. -/
theorem encode_laidOut (obtained : log.Obtained) (written : encode log m o = .ok out) :
    (∃ h : Header, LaidOut log (sourceOf m o out) h ∧
      (o = .native → readHeader out.toByteArray = .ok h)) ∧
    log.NamesIncrease ∧ log.AuthorsNamed ∧
    ∀ (s : Service) (id : LogId) (body : String), log = s.parse id body →
      ∀ name ∈ log.nameTexts, ∃ l ∈ log.remarks, l.author = name := by
  have storable := obtained.storable
  obtain ⟨-, authors, hauthors, fits, small, rfl⟩ := encode_eq_ok.mp written
  obtain ⟨h, d⟩ := @exists_directs log m o authors fits
  refine ⟨⟨h, d.laidOut storable hauthors small, ?_⟩, storable.names_increase,
    storable.authors_named, ?_⟩
  · rintro rfl
    exact readHeader_written d small
  · rintro s id body rfl name hname
    exact (s.mem_nameTexts_parse id body name).mp hname

/-- A line without a user, with the most significant bytes first: all parts but that of the user
follow the 42 bytes of the header. -/
theorem encode_laidOut_leapSecond :
    ∃ out h, encode leapSecond .u16 .big = .ok out ∧
      LaidOut leapSecond (sourceOf .u16 .big out) h ∧
      h.numbers = [1, 42, 0, 45, 50, 54, 60, 68, 70] ∧ out.length = 74 := by
  obtain ⟨out, written⟩ := exists_encode_leapSecond .big
  obtain ⟨⟨h, laid, -⟩, -, -, -⟩ := encode_laidOut obtained_leapSecond written
  refine ⟨out, h, written, laid, ?_⟩
  have log := leapSecond_eq
  have names : nameBytes leapSecond = [[98, 195, 182]] := by
    rw [log]
    cbv
  have messages : messageBytes leapSecond = [[195, 169]] := by
    rw [log]
    cbv
  have user : h.user = 0 := laid.user_absent.mpr (by rw [log])
  have named : leapSecond.names.size = 1 := by rw [log]; rfl
  have lines : leapSecond.lines.size = 1 := by rw [log]; rfl
  have channel : leapSecond.id.channel.utf8ByteSize = 1 := by rw [log]; rfl
  have count := laid.line_count
  have nameParts := laid.names_absent
  have lineParts := laid.lines_absent
  rw [named] at nameParts
  rw [lines] at count lineParts
  have tile : h.channel = 42 ∧ h.names = h.channel + 3 ∧ h.messages = h.names + 5 ∧
      h.nameTable = h.messages + 4 ∧ h.timestamps = h.nameTable + 6 ∧
      h.authors = h.timestamps + 8 ∧ h.messageTable = h.authors + 2 ∧
      h.messageTable + 4 = out.length := by
    simpa [partSpans, names, messages, named, lines, channel, user, laid.channel_present,
      nameParts, lineParts, Span.Tile, Span.stop, Mode.width, sourceOf] using laid.consecutive
  obtain ⟨_, _, _, _, _, _, _, _⟩ := tile
  constructor
  · simp only [Header.numbers, List.cons.injEq, and_true]
    omega
  · omega

end Codec

end Scrollback
