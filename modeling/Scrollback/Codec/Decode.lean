/-
Reading a log back from bytes.  `readHeader` reads what stands before the parts, `decode` a whole
log.  Nothing in the bytes is trusted: every stretch is checked to lie inside them, both texts to
be UTF-8, every span to fit the text, the names to increase, every author number to be one of
them.  So what `decode` accepts is a log in every respect, and otherwise it says what is wrong.
-/
import Scrollback.Codec.Encode

namespace Scrollback.Codec

/-- Bytes to be read, and how numbers are written in them. -/
structure Source where
  bytes : ByteArray
  mode : Mode
  order : ByteOrder

namespace Source

/-- A stretch of bytes. -/
def slice (s : Source) (start length : Nat) (part : CodecPart) : Except CodecError ByteArray :=
  if start + length ≤ s.bytes.size then .ok (s.bytes.extract start (start + length))
  else .error (.truncated part)

/-- A number. -/
def word (s : Source) (start : Nat) (part : CodecPart) : Except CodecError Nat :=
  (s.slice start s.mode.width part).map fun b => s.order.number b.data.toList

/-- A number of milliseconds. -/
def stamp (s : Source) (start : Nat) (part : CodecPart) : Except CodecError Int :=
  (s.slice start 8 part).map fun b => intOfWord (s.order.number b.data.toList)

/-- A stretch of bytes with its size in front. -/
def sized (s : Source) (start : Nat) (part : CodecPart) : Except CodecError ByteArray := do
  let length ← s.word start part
  s.slice (start + s.mode.width) length part

/-- A stretch with its size in front, or no bytes where the offset says that it is absent. -/
def sizedOrEmpty (s : Source) (start : Nat) (part : CodecPart) : Except CodecError ByteArray :=
  if start = 0 then .ok ByteArray.empty else s.sized start part

/-- Room for `count` entries of a given size, starting at `start`. -/
def room (s : Source) (start count size : Nat) (part : CodecPart) : Except CodecError Unit :=
  (s.slice start (count * size) part).map fun _ => ()

end Source

/-- What stands before the parts of a stored log. -/
structure Header where
  mode : Mode
  order : ByteOrder
  lineCount : Nat
  channel : Nat
  user : Nat
  names : Nat
  messages : Nat
  nameTable : Nat
  timestamps : Nat
  authors : Nat
  messageTable : Nat
  period : Period
  deriving DecidableEq, Repr

/-- Read the tags. -/
def readTags (bytes : ByteArray) : Except CodecError Source := do
  if bytes.size < preambleSize then throw (.truncated .preamble)
  let modeTag := bytes.get! 0
  let orderTag := bytes.get! 1
  match Mode.ofTag? modeTag with
  | none => throw (.unknownFormat modeTag)
  | some mode =>
    match ByteOrder.ofTag? orderTag with
    | none => throw (.unknownOrder orderTag)
    | some order =>
      -- the other order is known, but not read
      if order = ByteOrder.native then pure ⟨bytes, mode, order⟩
      else throw (.foreignOrder order)

/-- Read the tags, the period and the numbers before the parts. -/
def readHeader (bytes : ByteArray) : Except CodecError Header := do
  let s ← readTags bytes
  let w := s.mode.width
  let start ← s.stamp (preambleSize + headerWords * w) .header
  let stop ← s.stamp (preambleSize + headerWords * w + 8) .header
  let field (i : Nat) := s.word (preambleSize + i * w) .header
  let lineCount ← field 0
  let channel ← field 1
  let user ← field 2
  let names ← field 3
  let messages ← field 4
  let nameTable ← field 5
  let timestamps ← field 6
  let authors ← field 7
  let messageTable ← field 8
  let period ← (Period.make? start stop).mapError .time
  pure ⟨s.mode, s.order, lineCount, channel, user, names, messages, nameTable, timestamps,
    authors, messageTable, period⟩

/-- The text of some bytes. -/
def textOf (bytes : ByteArray) : Except CodecError String :=
  match String.fromUTF8? bytes with
  | some s => .ok s
  | none => .error .notUtf8

/-- The spans of the name table: each lies in the names, which are the first `namesSize` bytes of
the text, and fits the text. -/
def readNames (s : Source) (start : Nat) (text : String) (namesSize : Nat) :
    Except CodecError (List Span) :=
  if start = 0 then .ok []
  else do
    let w := s.mode.width
    let count ← s.word start .nameTable
    s.room (start + w) count (2 * w) .nameTable
    (List.range count).mapM fun i => do
      let place := start + w + i * (2 * w)
      let offset ← s.word place .nameTable
      let length ← s.word (place + w) .nameTable
      let span : Span := ⟨offset, length⟩
      if namesSize < span.stop || !decide (span.Fits text) then throw (.outOfBounds .nameTable)
      pure span

/-- Each list comes before the next one. -/
def increasing : List (List UInt8) → Bool
  | [] => true
  | [_] => true
  | a :: b :: rest => decide (a < b) && increasing (b :: rest)

/-- The `i`-th line.  Its author is one of the names; its message lies in the messages, which are
the `messagesSize` bytes of the text after the names, and fits the text. -/
def readLine (s : Source) (h : Header) (text : String) (namesSize messagesSize : Nat)
    (names : Array Span) (i : Nat) : Except CodecError LineSpan := do
  let w := s.mode.width
  let millis ← s.stamp (h.timestamps + i * 8) .timestamps
  let time ← (Instant.ofMillis? millis).mapError .time
  let index ← s.word (h.authors + i * w) .authorIndices
  match names[index]? with
  | none => throw (.authorIndex index names.size)
  | some author =>
    let place := h.messageTable + i * (2 * w)
    let offset ← s.word place .messageTable
    let length ← s.word (place + w) .messageTable
    if messagesSize < offset + length then throw (.outOfBounds .messageTable)
    let message : Span := ⟨namesSize + offset, length⟩
    if !decide (message.Fits text) then throw (.outOfBounds .messageTable)
    pure ⟨time, author, message⟩

/-- All lines. -/
def readLines (s : Source) (h : Header) (text : String) (namesSize messagesSize : Nat)
    (names : Array Span) : Except CodecError (List LineSpan) :=
  if h.lineCount = 0 then .ok []
  else do
    if h.timestamps = 0 || h.authors = 0 || h.messageTable = 0 then
      throw (.missingSection .lineArrays)
    let w := s.mode.width
    s.room h.timestamps h.lineCount 8 .timestamps
    s.room h.authors h.lineCount w .authorIndices
    s.room h.messageTable h.lineCount (2 * w) .messageTable
    (List.range h.lineCount).mapM (readLine s h text namesSize messagesSize names)

/-- Read a log. -/
def decode (bytes : ByteArray) : Except CodecError Log := do
  let h ← readHeader bytes
  let s : Source := ⟨bytes, h.mode, h.order⟩
  if h.channel = 0 then throw (.missingSection .channel)
  let channel ← s.sized h.channel .channel >>= textOf
  let user ← s.sizedOrEmpty h.user .user >>= textOf
  let nameBlob ← s.sizedOrEmpty h.names .nameBlob
  let messageBlob ← s.sizedOrEmpty h.messages .messageBlob
  let text ← textOf (nameBlob ++ messageBlob)
  -- a character may lie across the seam of the two texts, and no span may cut it
  let names ← readNames s h.nameTable text nameBlob.size
  if !increasing (names.map fun n => utf8 (n.textIn text)) then throw .unsortedNames
  let lines ← readLines s h text nameBlob.size messageBlob.size names.toArray
  pure ⟨⟨channel, h.period, user⟩, text, true, names.toArray, lines.toArray⟩

end Scrollback.Codec
