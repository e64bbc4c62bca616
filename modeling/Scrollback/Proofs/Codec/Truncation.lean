/-
What is missing at the end of a stored log, and what stands behind it.

A reader of the front of some bytes does what it would do with all of them, until it misses a part
of which the end is cut off (`UnlessCut`).  Each reader does so because those that it is made of do.
So nothing behind a log changes how it is read.  On the other hand the parts fill a file that has
been written, and all of them are read before anything in them can be refused: a front that is read
without missing anything is the whole file (`cut_of_front`).
-/
import Scrollback.Proofs.Codec.Places

namespace Scrollback.Codec

/-- The end of a part was missing. -/
def Cut {α : Type} (x : Except CodecError α) : Prop :=
  ∃ part, x = .error (.truncated part)

/-- What is read from the front of some bytes is what is read from all of them, unless a part is cut
off. -/
def UnlessCut {α : Type} (front whole : Except CodecError α) : Prop :=
  front = whole ∨ Cut front

/-! ### Computations one after the other -/

variable {α β γ : Type}

theorem Cut.bind {x : Except CodecError α} (h : Cut x) (f : α → Except CodecError β) :
    Cut (x >>= f) := by
  obtain ⟨part, rfl⟩ := h
  exact ⟨part, rfl⟩

theorem Cut.map {x : Except CodecError α} (h : Cut x) (f : α → β) : Cut (x.map f) := by
  obtain ⟨part, rfl⟩ := h
  exact ⟨part, rfl⟩

namespace UnlessCut

variable {x y : Except CodecError α}

theorem refl (x : Except CodecError α) : UnlessCut x x := .inl rfl

theorem map (h : UnlessCut x y) (f : α → β) : UnlessCut (x.map f) (y.map f) := by
  rcases h with rfl | cut
  · exact refl _
  · exact .inr (cut.map f)

/-- Two computations one after the other, where the first does not give quite the same but what
corresponds to it. -/
theorem bind_map {y : Except CodecError γ} {e : α → γ} (h : UnlessCut (x.map e) y)
    {f : α → Except CodecError β} {g : γ → Except CodecError β}
    (hfg : ∀ a, UnlessCut (f a) (g (e a))) : UnlessCut (x >>= f) (y >>= g) := by
  rcases x with error | a
  · rcases h with rfl | ⟨part, cut⟩
    · exact refl _
    · cases cut
      exact .inr ⟨part, rfl⟩
  · rcases h with rfl | ⟨part, cut⟩
    · exact hfg a
    · cases cut

theorem bind (h : UnlessCut x y) {f g : α → Except CodecError β}
    (hfg : ∀ a, UnlessCut (f a) (g a)) : UnlessCut (x >>= f) (y >>= g) := by
  refine @bind_map α β α x y id ?_ f g hfg
  rcases x with error | a
  · exact h
  · exact h

theorem ite {c : Prop} [Decidable c] {x' y' : Except CodecError α} (h : UnlessCut x y)
    (h' : UnlessCut x' y') : UnlessCut (if c then x else x') (if c then y else y') := by
  split
  · exact h
  · exact h'

/-- A check before the rest is the same for both. -/
theorem check {c : Prop} [Decidable c] {e : CodecError} {f g : PUnit → Except CodecError α}
    (h : UnlessCut x y) :
    UnlessCut (if c then throw e >>= f else x) (if c then throw e >>= g else y) := by
  refine ite (.inl ?_) h
  have refused (f : PUnit → Except CodecError α) : (throw e >>= f) = .error e := rfl
  rw [refused, refused]

theorem mapM {xs : List α} {f g : α → Except CodecError β} (h : ∀ a, UnlessCut (f a) (g a)) :
    UnlessCut (xs.mapM f) (xs.mapM g) := by
  induction xs with
  | nil => exact refl _
  | cons a xs ih =>
    rw [List.mapM_cons, List.mapM_cons]
    exact (h a).bind fun b => ih.bind fun bs => refl _

/-- Where nothing is missing in the end, nothing was missing in the beginning. -/
theorem peel (h : UnlessCut x y) {a : α} (known : y = .ok a) {f : α → Except CodecError β}
    (uncut : ¬Cut (x >>= f)) : x = .ok a ∧ ¬Cut (f a) := by
  rcases h with rfl | cut
  · subst known
    exact ⟨rfl, uncut⟩
  · exact absurd (cut.bind f) uncut

end UnlessCut

/-! ### Readers of the front -/

variable (more : ByteArray)

/-- The same bytes with others behind them. -/
def Source.extended (s : Source) : Source :=
  { s with bytes := s.bytes ++ more }

theorem extract_append_of_le {bytes : ByteArray} {start stop : Nat} (h : stop ≤ bytes.size) :
    (bytes ++ more).extract start stop = bytes.extract start stop := by
  have behind : more.extract (start - bytes.size) 0 = .empty :=
    ByteArray.extract_eq_empty_iff.mpr (by omega)
  rw [ByteArray.extract_append, Nat.sub_eq_zero_of_le h, behind, ByteArray.append_empty]

theorem get!_append {bytes : ByteArray} {i : Nat} (h : i < bytes.size) :
    (bytes ++ more).get! i = bytes.get! i := by
  have inside : i < bytes.data.size := h
  have longer : i < (bytes ++ more).data.size := by
    rw [ByteArray.data_append, Array.size_append]
    omega
  show (bytes ++ more).data[i]! = bytes.data[i]!
  rw [getElem!_pos _ i longer, getElem!_pos _ i inside]
  simp only [ByteArray.data_append]
  exact Array.getElem_append_left inside

namespace Source

variable (s : Source) (start length count size : Nat) (part : CodecPart)

theorem slice_unlessCut :
    UnlessCut (s.slice start length part) ((s.extended more).slice start length part) := by
  by_cases inside : start + length ≤ s.bytes.size
  · left
    have longer : start + length ≤ (s.extended more).bytes.size := by
      rw [extended, ByteArray.size_append]
      omega
    rw [slice, slice, if_pos inside, if_pos longer, extended, extract_append_of_le more inside]
  · right
    exact ⟨part, if_neg inside⟩

theorem word_unlessCut : UnlessCut (s.word start part) ((s.extended more).word start part) :=
  (s.slice_unlessCut more start s.mode.width part).map _

theorem stamp_unlessCut : UnlessCut (s.stamp start part) ((s.extended more).stamp start part) :=
  (s.slice_unlessCut more start 8 part).map _

theorem sized_unlessCut : UnlessCut (s.sized start part) ((s.extended more).sized start part) :=
  (s.word_unlessCut more start part).bind fun _ => s.slice_unlessCut more _ _ part

theorem sizedOrEmpty_unlessCut :
    UnlessCut (s.sizedOrEmpty start part) ((s.extended more).sizedOrEmpty start part) :=
  .ite (.refl _) (s.sized_unlessCut more start part)

theorem room_unlessCut :
    UnlessCut (s.room start count size part) ((s.extended more).room start count size part) :=
  (s.slice_unlessCut more start (count * size) part).map _

/-- There is room, or the end of it is missing. -/
theorem room_or_cut : UnlessCut (s.room start count size part) (.ok ()) := by
  by_cases inside : start + count * size ≤ s.bytes.size
  · exact .inl (room_eq_ok.mpr inside)
  · right
    refine ⟨part, ?_⟩
    rw [room, slice, if_neg inside]
    rfl

end Source

theorem readTags_unlessCut (bytes : ByteArray) :
    UnlessCut ((readTags bytes).map (Source.extended more)) (readTags (bytes ++ more)) := by
  by_cases short : bytes.size < preambleSize
  · right
    refine ⟨.preamble, ?_⟩
    rw [readTags, if_pos short]
    rfl
  · left
    have preamble : 8 ≤ bytes.size := Nat.not_lt.mp short
    have long : ¬(bytes ++ more).size < preambleSize := by
      rw [ByteArray.size_append]
      omega
    rw [readTags, readTags, if_neg short, if_neg long, get!_append more (by omega),
      get!_append more (by omega)]
    dsimp only
    rcases Mode.ofTag? (bytes.get! 0) with - | mode
    · rfl
    · dsimp only
      rcases ByteOrder.ofTag? (bytes.get! 1) with - | order
      · rfl
      · dsimp only
        split
        · rfl
        · rfl

theorem readHeader_unlessCut (bytes : ByteArray) :
    UnlessCut (readHeader bytes) (readHeader (bytes ++ more)) := by
  rw [readHeader, readHeader]
  refine (readTags_unlessCut more bytes).bind_map fun s => ?_
  refine (s.stamp_unlessCut more _ _).bind fun start => ?_
  refine (s.stamp_unlessCut more _ _).bind fun stop => ?_
  -- the nine numbers
  iterate 9
    refine (s.word_unlessCut more _ _).bind fun _ => ?_
  exact .refl _

theorem readNames_unlessCut (s : Source) (start : Nat) (text : String) (namesSize : Nat) :
    UnlessCut (readNames s start text namesSize)
      (readNames (s.extended more) start text namesSize) := by
  rw [readNames, readNames]
  refine .ite (.refl _) ?_
  refine (s.word_unlessCut more _ _).bind fun count => ?_
  refine (s.room_unlessCut more _ _ _ _).bind fun _ => ?_
  refine .mapM fun i => ?_
  refine (s.word_unlessCut more _ _).bind fun offset => ?_
  exact (s.word_unlessCut more _ _).bind fun length => .refl _

theorem readLine_unlessCut (s : Source) (h : Header) (text : String)
    (namesSize messagesSize : Nat) (names : Array Span) (i : Nat) :
    UnlessCut (readLine s h text namesSize messagesSize names i)
      (readLine (s.extended more) h text namesSize messagesSize names i) := by
  rw [readLine, readLine]
  refine (s.stamp_unlessCut more _ _).bind fun millis => ?_
  refine UnlessCut.bind (.refl _) fun time => ?_
  refine (s.word_unlessCut more _ _).bind fun index => ?_
  rcases names[index]? with - | author
  · exact .refl _
  · refine (s.word_unlessCut more _ _).bind fun offset => ?_
    exact (s.word_unlessCut more _ _).bind fun length => .refl _

theorem readLines_unlessCut (s : Source) (h : Header) (text : String)
    (namesSize messagesSize : Nat) (names : Array Span) :
    UnlessCut (readLines s h text namesSize messagesSize names)
      (readLines (s.extended more) h text namesSize messagesSize names) := by
  rw [readLines, readLines]
  refine .ite (.refl _) (.check ?_)
  refine (s.room_unlessCut more _ _ _ _).bind fun _ => ?_
  refine (s.room_unlessCut more _ _ _ _).bind fun _ => ?_
  refine (s.room_unlessCut more _ _ _ _).bind fun _ => ?_
  exact .mapM fun i => readLine_unlessCut more s h text namesSize messagesSize names i

/-- Whatever the bytes are, what stands behind them is of no matter, unless a part of them is cut
off. -/
theorem decode_unlessCut (bytes : ByteArray) : UnlessCut (decode bytes) (decode (bytes ++ more)) := by
  rw [decode, decode]
  refine (readHeader_unlessCut more bytes).bind fun h => ?_
  let s : Source := ⟨bytes, h.mode, h.order⟩
  refine .check ?_
  refine ((s.sized_unlessCut more _ _).bind fun _ => .refl _).bind fun channel => ?_
  refine ((s.sizedOrEmpty_unlessCut more _ _).bind fun _ => .refl _).bind fun user => ?_
  refine (s.sizedOrEmpty_unlessCut more _ _).bind fun nameBlob => ?_
  refine (s.sizedOrEmpty_unlessCut more _ _).bind fun messageBlob => ?_
  refine UnlessCut.bind (.refl _) fun text => ?_
  refine (readNames_unlessCut more s _ _ _).bind fun names => ?_
  refine .check ?_
  exact (readLines_unlessCut more s h _ _ _ _).bind fun lines => .refl _

/-! ### Fronts of a log -/

section

variable {more} {bytes : ByteArray}

/-- A front in which nothing is missing opens as the whole does. -/
theorem Opening.reads_front (r : Opening (bytes ++ more)) (uncut : ¬Cut (decode bytes)) :
    readHeader bytes = .ok r.header ∧
      ((r.header.source bytes).sized r.header.channel .channel >>= textOf) = .ok r.channel ∧
      ((r.header.source bytes).sizedOrEmpty r.header.user .user >>= textOf) = .ok r.user ∧
      (r.header.source bytes).sizedOrEmpty r.header.names .nameBlob = .ok r.nameBlob ∧
      (r.header.source bytes).sizedOrEmpty r.header.messages .messageBlob = .ok r.messageBlob ∧
      readNames (r.header.source bytes) r.header.nameTable r.text r.nameBlob.size = .ok r.names := by
  let s := r.header.source bytes
  rw [decode] at uncut
  obtain ⟨header, uncut⟩ := (readHeader_unlessCut more bytes).peel r.header_read uncut
  rw [if_neg r.channel_present] at uncut
  obtain ⟨channel, uncut⟩ :=
    ((s.sized_unlessCut more _ _).bind fun _ => .refl _).peel r.channel_read uncut
  obtain ⟨user, uncut⟩ :=
    ((s.sizedOrEmpty_unlessCut more _ _).bind fun _ => .refl _).peel r.user_read uncut
  obtain ⟨names, uncut⟩ := (s.sizedOrEmpty_unlessCut more _ _).peel r.nameBlob_read uncut
  obtain ⟨messages, uncut⟩ := (s.sizedOrEmpty_unlessCut more _ _).peel r.messageBlob_read uncut
  obtain ⟨-, uncut⟩ := (UnlessCut.refl _).peel r.text_read uncut
  obtain ⟨table, -⟩ := (readNames_unlessCut more s _ _ _).peel r.names_read uncut
  exact ⟨header, channel, user, names, messages, table⟩

/-- A front in which nothing is missing, opened. -/
def Opening.front (r : Opening (bytes ++ more)) (uncut : ¬Cut (decode bytes)) : Opening bytes :=
  { r with
    header_read := (r.reads_front uncut).1
    channel_read := (r.reads_front uncut).2.1
    user_read := (r.reads_front uncut).2.2.1
    nameBlob_read := (r.reads_front uncut).2.2.2.1
    messageBlob_read := (r.reads_front uncut).2.2.2.2.1
    names_read := (r.reads_front uncut).2.2.2.2.2 }

end

/-! ### What has been read lies within the bytes -/

theorem le_of_readHeader {bytes : ByteArray} {h : Header} (read : readHeader bytes = .ok h) :
    8 + 9 * h.mode.width + 16 ≤ bytes.size := by
  simp only [readHeader, Except.bind_eq_ok, Except.pure_eq_ok] at read
  obtain ⟨s, tags, _, -, stop, last, _, -, _, -, _, -, _, -, _, -, _, -, _, -, _, -, _, -, _, -,
    rfl⟩ := read
  have inside := le_of_stamp last
  rw [bytes_of_readTags tags] at inside
  exact inside

theorem le_of_text {s : Source} {start : Nat} {part : CodecPart} {text : String}
    (read : (s.sized start part >>= textOf) = .ok text) :
    start + s.mode.width + text.utf8ByteSize ≤ s.bytes.size := by
  obtain ⟨b, sized, own⟩ := Except.bind_eq_ok.mp read
  have inside := le_of_sized sized
  rwa [textOf_eq_ok.mp own, size_toByteArray, length_utf8] at inside

namespace Opening

variable {bytes : ByteArray} (r : Opening bytes)

theorem channel_le :
    r.header.channel + r.header.mode.width + r.channel.utf8ByteSize ≤ bytes.size :=
  le_of_text r.channel_read

theorem user_le (present : r.header.user ≠ 0) :
    r.header.user + r.header.mode.width + r.user.utf8ByteSize ≤ bytes.size := by
  have read := r.user_read
  rw [Source.sizedOrEmpty, if_neg present] at read
  exact le_of_text read

theorem nameBlob_le (present : r.header.names ≠ 0) :
    r.header.names + r.header.mode.width + r.nameBlob.size ≤ bytes.size := by
  have read := r.nameBlob_read
  rw [Source.sizedOrEmpty, if_neg present] at read
  exact le_of_sized read

theorem messageBlob_le (present : r.header.messages ≠ 0) :
    r.header.messages + r.header.mode.width + r.messageBlob.size ≤ bytes.size := by
  have read := r.messageBlob_read
  rw [Source.sizedOrEmpty, if_neg present] at read
  exact le_of_sized read

theorem nameTable_le (present : r.header.nameTable ≠ 0) :
    r.header.nameTable + r.header.mode.width + r.names.length * (2 * r.header.mode.width) ≤
      bytes.size :=
  Source.room_eq_ok.mp ((readNames_eq_ok present).mp r.names_read).2.1

/-- Before the first line is read there is room for all of them. -/
theorem lines_le (some : r.header.lineCount ≠ 0)
    (present : r.header.timestamps ≠ 0 ∧ r.header.authors ≠ 0 ∧ r.header.messageTable ≠ 0)
    (uncut : ¬Cut (decode bytes)) :
    r.header.timestamps + r.header.lineCount * 8 ≤ bytes.size ∧
      r.header.authors + r.header.lineCount * r.header.mode.width ≤ bytes.size ∧
      r.header.messageTable + r.header.lineCount * (2 * r.header.mode.width) ≤ bytes.size := by
  obtain ⟨ht, ha, hm⟩ := present
  have offsets : ¬(decide (r.header.timestamps = 0) || decide (r.header.authors = 0) ||
      decide (r.header.messageTable = 0)) = true := by
    simp [ht, ha, hm]
  have uncut : ¬Cut r.readLines := fun cut => uncut (r.decode_eq ▸ cut.map r.logWith)
  rw [readLines, Codec.readLines, if_neg some, if_neg offsets] at uncut
  obtain ⟨timestamps, uncut⟩ := (Source.room_or_cut _ _ _ _ _).peel rfl uncut
  obtain ⟨authors, uncut⟩ := (Source.room_or_cut _ _ _ _ _).peel rfl uncut
  obtain ⟨messageTable, -⟩ := (Source.room_or_cut _ _ _ _ _).peel rfl uncut
  exact ⟨Source.room_eq_ok.mp timestamps, Source.room_eq_ok.mp authors,
    Source.room_eq_ok.mp messageTable⟩

end Opening

/-! ### Fronts of a written log -/

variable {log : Log} {m : Mode} {out : List UInt8} {bytes more : ByteArray}

/-- What has been read before the lines is what a log has there. -/
structure Opening.Of (r : Opening bytes) (log : Log) : Prop where
  channel : r.channel = log.id.channel
  user : r.user = log.id.user
  nameBlob : r.nameBlob.size = (nameBytes log).flatten.length
  messageBlob : r.messageBlob.size = (messageBytes log).flatten.length
  names : r.names.length = log.names.size
  lineCount : r.header.lineCount = log.lines.size
  lines_absent : (r.header.timestamps = 0 ↔ log.lines.size = 0) ∧
    (r.header.authors = 0 ↔ log.lines.size = 0) ∧
    (r.header.messageTable = 0 ↔ log.lines.size = 0)

/-- If nothing is missing, all parts that the log has lie within the bytes. -/
theorem Opening.Of.stop_le {r : Opening bytes} (h : r.Of log) (uncut : ¬Cut (decode bytes))
    {p : Span} (hp : p ∈ partSpans log r.header.mode.width r.header) (present : p.offset ≠ 0) :
    p.stop ≤ bytes.size := by
  have lines (some : log.lines.size ≠ 0) := r.lines_le (h.lineCount.trans_ne some)
    ⟨h.lines_absent.1.not.mpr some, h.lines_absent.2.1.not.mpr some,
      h.lines_absent.2.2.not.mpr some⟩ uncut
  rw [h.lineCount] at lines
  simp only [partSpans, List.mem_cons, List.not_mem_nil, or_false] at hp
  rcases hp with rfl | rfl | rfl | rfl | rfl | rfl | rfl | rfl
  · have inside := r.channel_le
    rwa [h.channel, Nat.add_assoc] at inside
  · have inside := r.user_le present
    rwa [h.user, Nat.add_assoc] at inside
  · have inside := r.nameBlob_le present
    rwa [h.nameBlob, Nat.add_assoc] at inside
  · have inside := r.messageBlob_le present
    rwa [h.messageBlob, Nat.add_assoc] at inside
  · have inside := r.nameTable_le present
    rwa [h.names, Nat.add_assoc] at inside
  · exact (lines (h.lines_absent.1.not.mp present)).1
  · exact (lines (h.lines_absent.2.1.not.mp present)).2.1
  · exact (lines (h.lines_absent.2.2.not.mp present)).2.2

/-- In a front of a written log the end of a part is missing. -/
theorem cut_of_front (storable : log.Storable) (written : encode log m .native = .ok out)
    (split : out.toByteArray = bytes ++ more) (short : bytes.size < out.length) :
    Cut (decode bytes) := by
  obtain ⟨-, authors, hauthors, fits, small, rfl⟩ := encode_eq_ok.mp written
  obtain ⟨h, d⟩ := @exists_directs log m .native authors fits
  have laid := d.laidOut storable hauthors small
  obtain ⟨r, rfl, opens⟩ : ∃ r : Opening (bytes ++ more), r.header = h ∧ r.Of log := by
    rw [← split]
    refine ⟨d.opening storable.names_increase (readHeader_written d small), rfl, rfl, rfl,
      size_toByteArray _, size_toByteArray _, ?_, laid.line_count, laid.lines_absent.2⟩
    show (stretches 0 (nameBytes log)).length = _
    rw [length_stretches, nameBytes, List.length_map, length_nameTexts]
  obtain rfl : r.header.mode = m := d.mode
  by_contra uncut
  -- all that there is of the parts lies in the front, so that the front is the whole
  let front := r.front uncut
  have opens : front.Of log := ⟨opens.channel, opens.user, opens.nameBlob, opens.messageBlob,
    opens.names, opens.lineCount, opens.lines_absent⟩
  have stop := laid.consecutive.stop_le (le_of_readHeader front.header_read) fun p hp => by
    obtain ⟨mem, present⟩ := List.mem_filter.mp hp
    exact opens.stop_le uncut mem (by simpa using present)
  rw [sourceOf, size_toByteArray] at stop
  omega

/-- What has been written cannot be read without its end: whatever is missing there, a part is found
to be cut off, and nothing else.  What stands behind a log, written or not, does not matter. -/
theorem decode_extent :
    (∀ (log : Log) (m : Mode) (out : List UInt8), log.Obtained →
      encode log m .native = .ok out → ∀ n < out.length,
        ∃ part, decode (out.take n).toByteArray = .error (.truncated part)) ∧
    ∀ (bytes more : ByteArray) (log : Log), decode bytes = .ok log →
      decode (bytes ++ more) = .ok log := by
  refine ⟨fun log m out obtained written n hn => ?_, fun bytes more log read => ?_⟩
  · have split : out.toByteArray = (out.take n).toByteArray ++ (out.drop n).toByteArray := by
      rw [← List.toByteArray_append, List.take_append_drop]
    have short : (out.take n).toByteArray.size < out.length := by
      rw [size_toByteArray, List.length_take]
      omega
    exact cut_of_front obtained.storable written split short
  · rcases decode_unlessCut more bytes with same | ⟨part, cut⟩
    · rw [← same, read]
    · rw [read] at cut
      cases cut

/-- A line of which the last byte is missing, and the whole line with two bytes behind it. -/
theorem decode_extent_leapSecond :
    ∃ out back, encode leapSecond .u16 .native = .ok out ∧ out.length = 74 ∧
      (∃ part, decode (out.take 73).toByteArray = .error (.truncated part)) ∧
      decode out.toByteArray = .ok back ∧
      decode (out.toByteArray ++ ⟨#[0, 255]⟩) = .ok back := by
  obtain ⟨out, written⟩ := exists_encode_leapSecond .native
  obtain ⟨back, read, -⟩ :=
    decode_of_representable obtained_leapSecond.storable written representable_leapSecond
  have length := (length_of_encode written).trans encodedSize_leapSecond
  obtain ⟨fronts, longer⟩ := decode_extent
  exact ⟨out, back, written, length,
    fronts leapSecond .u16 out obtained_leapSecond written 73 (by omega), read,
    longer out.toByteArray _ back read⟩

end Scrollback.Codec
