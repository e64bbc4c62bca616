/-
Writing a log to bytes.  A stored log is

    mode tag, byte order tag, six zero bytes
    line count and eight offsets, one for each part below (zero: the part is absent)
    period start and period end, in milliseconds, eight bytes each
    channel | user | name blob | message blob      (each its size, then its bytes)
    name table                                     (its count, then offset and size of each name)
    timestamps | author indices | message table    (one entry to a line)

with all counts, offsets and sizes as wide as the mode says.  Names are stored once each, in order;
a line refers to its author by number.  The user is absent when empty, the names when there are
none, the messages and the last three parts when there are no lines.

An `Encoder` is a buffer that grows.  The parts go into one buffer, and the place of each is read off
from how far that buffer has grown (`putParts`).  The header names those places, so it is put last, into a
buffer of its own, and stands in front.  Every number is checked against the mode as it is put.
-/
import Scrollback.Codec.Error
import Scrollback.Total

namespace Scrollback.Codec

/-- The bytes of the two tags and the padding. -/
def preambleSize : Nat := 8

/-- How many numbers stand before the period. -/
def headerWords : Nat := 9

/-- The bytes before the first part. -/
def headerSize (m : Mode) : Nat :=
  preambleSize + headerWords * m.width + 16

/-! ### Buffers -/

/-- A buffer, and how numbers are put into it. -/
structure Encoder where
  mode : Mode
  order : ByteOrder
  buffer : Array UInt8

namespace Encoder

/-- An empty buffer. -/
def new (m : Mode) (o : ByteOrder) : Encoder := ⟨m, o, #[]⟩

/-- Put bytes as they are. -/
def putRaw (e : Encoder) (bytes : List UInt8) : Encoder :=
  { e with buffer := e.buffer ++ bytes }

/-- Put a count, an offset or a size. -/
def putWord (e : Encoder) (n : Nat) : Except CodecError Encoder :=
  if e.mode.max < n then .error (.overflow n e.mode)
  else .ok (e.putRaw (e.order.bytes e.mode.width n))

/-- Put a number of milliseconds. -/
def putStamp (e : Encoder) (millis : Int) : Encoder :=
  e.putRaw (e.order.bytes 8 (wordOfInt millis))

/-- Put bytes with their size in front. -/
def putSized (e : Encoder) (bytes : List UInt8) : Except CodecError Encoder := do
  let e ← e.putWord bytes.length
  pure (e.putRaw bytes)

/-- Put the offset and the size of a span. -/
def putSpan (e : Encoder) (s : Span) : Except CodecError Encoder := do
  let e ← e.putWord s.offset
  e.putWord s.length

/-- Where in a stored log the next byte of the parts will stand. -/
def here (e : Encoder) : Nat :=
  headerSize e.mode + e.buffer.size

end Encoder

/-- A part of a stored log: whether it is there, and how it is put. -/
structure Part where
  present : Bool
  put : Encoder → Except CodecError Encoder

/-- Put parts one behind the other.  Gives the place where each of them begins, zero where it is absent. -/
def putParts : List Part → Encoder → Except CodecError (List Nat × Encoder)
  | [], e => pure ([], e)
  | part :: rest, e =>
    if part.present then do
      let place := e.here
      let (places, last) ← putParts rest (← part.put e)
      pure (place :: places, last)
    else do
      let (places, last) ← putParts rest e
      pure (0 :: places, last)

/-! ### What is gathered before it is put -/

/-- Texts one behind the other, and where each of them stands. -/
structure Pool where
  table : Array Span := #[]
  blob : String := ""

/-- Put one more text behind the others. -/
def Pool.add (p : Pool) (text : String) : Pool :=
  ⟨p.table.push ⟨p.blob.utf8ByteSize, text.utf8ByteSize⟩, p.blob ++ text⟩

/-- Put texts one behind the other. -/
def Pool.ofTexts (texts : List String) : Pool :=
  texts.foldl add {}

/-- The numbers of the lines' authors, and the messages. -/
structure Roll where
  authors : Array Nat := #[]
  messages : Pool := {}

/-- Take in one more line. -/
def Roll.add (log : Log) (r : Roll) (l : LineSpan) : Except CodecError Roll :=
  let name := log.textOf l.author
  match log.nameIndex? name with
  | none => .error (.unknownAuthor name)
  | some i => .ok ⟨r.authors.push i, r.messages.add (log.textOf l.message)⟩

/-! ### Logs -/

/-- The channel, and the user if there is one. -/
def identityParts (id : LogId) : List Part :=
  [⟨true, (·.putSized (utf8 id.channel))⟩, ⟨id.user != "", (·.putSized (utf8 id.user))⟩]

/-- The parts after the user. -/
def contentParts (log : Log) (names : Pool) (lines : Roll) : List Part :=
  let hasNames := !names.table.isEmpty
  let hasLines := !log.lines.isEmpty
  [⟨hasNames, (·.putSized (utf8 names.blob))⟩,
    ⟨hasLines, (·.putSized (utf8 lines.messages.blob))⟩,
    ⟨hasNames, fun e => do
      let e ← e.putWord names.table.size
      names.table.toList.foldlM Encoder.putSpan e⟩,
    ⟨hasLines, fun e => pure (log.lines.toList.foldl (fun e l => e.putStamp l.time.epochMillis) e)⟩,
    ⟨hasLines, fun e => lines.authors.toList.foldlM Encoder.putWord e⟩,
    ⟨hasLines, fun e => lines.messages.table.toList.foldlM Encoder.putSpan e⟩]

/-- Put what stands before the parts, for parts that begin at the given places. -/
def putHeader (log : Log) (places : List Nat) (e : Encoder) : Except CodecError Encoder := do
  let e := e.putRaw ([e.mode.tag, e.order.tag] ++ List.replicate (preambleSize - 2) 0)
  let e ← (log.lines.size :: places).foldlM Encoder.putWord e
  pure ((e.putStamp log.id.period.start).putStamp log.id.period.stop)

/-- Put the header in front of the parts. -/
def finish (log : Log) (places : List Nat) (body : Encoder) : Except CodecError (List UInt8) := do
  -- nothing begins behind the last byte, but its place must fit the mode like any other
  if body.mode.max < body.here then throw (.overflow body.here body.mode)
  let head ← putHeader log places (.new body.mode body.order)
  pure (head.buffer ++ body.buffer).toList

/-- Write a log. -/
def encode (log : Log) (m : Mode) (o : ByteOrder) : Except CodecError (List UInt8) := do
  if !log.valid then throw .invalidLog
  let (identityPlaces, body) ← putParts (identityParts log.id) (.new m o)
  let names := Pool.ofTexts log.nameTexts
  let lines ← log.lines.toList.foldlM (Roll.add log) {}
  let (contentPlaces, body) ← putParts (contentParts log names lines) body
  finish log (identityPlaces ++ contentPlaces) body

/-- An upper bound of the size of a written log, as if every part were present. -/
def sizeBound (log : Log) (m : Mode) : Nat :=
  let w := m.width
  let names := total (log.nameTexts.map String.utf8ByteSize)
  let messages := total (log.lines.toList.map fun l => l.message.length)
  headerSize m + (w + log.id.channel.utf8ByteSize) + (w + log.id.user.utf8ByteSize) +
    (w + names) + (w + messages) + (w + 2 * w * log.names.size) + log.lines.size * (8 + 3 * w)

/-- The narrowest mode that is sure to hold a log. -/
def narrowest (log : Log) : Mode :=
  (Mode.all.find? fun m => sizeBound log m ≤ m.max).getD .u64

end Scrollback.Codec
